import Mathlib.Tactic.Common
import RemoteBatch.HostKey.KnownHosts

/-! What the lines of a known-hosts file record for a name, and what a lookup makes of it. -/

namespace RemoteBatch.HostKey.KnownHosts

def entryKey? (name line : Bytes) : Option (Except Fault KeyData) :=
  if line.head? = some hash then none else (keyText? name line).map decodeKey

def recordedKeys (name content : Bytes) : List KeyData :=
  (Text.splitAfter lineFeed content).filterMap fun line => (entryKey? name line).bind (·.toOption)

def IsReadableLine (name line : Bytes) : Prop :=
  Utf8.isValid line ∧ ∀ result ∈ entryKey? name line, result.isOk

/-- Whether a file can be read as far as `name` goes: all of it is text, and whatever stands in an
entry for `name` is a key. -/
def Readable (name content : Bytes) : Prop :=
  ∀ line ∈ Text.splitAfter lineFeed content, IsReadableLine name line

instance (name line : Bytes) : Decidable (IsReadableLine name line) :=
  inferInstanceAs (Decidable (_ ∧ _))

instance (name content : Bytes) : Decidable (Readable name content) :=
  inferInstanceAs (Decidable (∀ line ∈ Text.splitAfter lineFeed content, IsReadableLine name line))

variable (name : Bytes)

lemma mem_recordedKeys {content : Bytes} {k : KeyData} :
    k ∈ recordedKeys name content ↔
      ∃ line ∈ Text.splitAfter lineFeed content, entryKey? name line = some (.ok k) := by
  simp only [recordedKeys, List.mem_filterMap, Option.bind_eq_some_iff]
  refine exists_congr fun line => and_congr_right fun _ => ?_
  constructor
  · rintro ⟨result, h, hk⟩
    cases result with
    | error fault => cases hk
    | ok k' =>
      obtain rfl : k' = k := by simpa [Except.toOption] using hk
      exact h
  · intro h
    exact ⟨_, h, rfl⟩

lemma entriesFrom_cons (n : Nat) (line : Bytes) (rest : List Bytes) :
    entriesFrom name n (line :: rest) =
      if Utf8.isValid line then
        match entryKey? name line with
        | none => entriesFrom name (if line.head? = some hash then n else n + 1) rest
        | some result => do
          let key ← result
          let entries ← entriesFrom name (n + 1) rest
          .ok ((n, key) :: entries)
      else .error (.unreadable .notUtf8) := by
  rw [entriesFrom, entryKey?]
  cases Utf8.isValid line with
  | false => rfl
  | true =>
    by_cases hh : line.head? = some hash
    · simp [hh]
    · simp only [hh, if_false]
      cases keyText? name line <;> rfl

lemma entriesFrom_of_readable (n : Nat) (lines : List Bytes)
    (h : ∀ line ∈ lines, IsReadableLine name line) :
    ∃ es, entriesFrom name n lines = .ok es ∧
      es.map (·.2) = lines.filterMap fun line => (entryKey? name line).bind (·.toOption) := by
  induction lines generalizing n with
  | nil => exact ⟨[], rfl, rfl⟩
  | cons line rest ih =>
    obtain ⟨hline, hrest⟩ := List.forall_mem_cons.1 h
    obtain ⟨hv, hk⟩ := hline
    rw [entriesFrom_cons, if_pos hv, List.filterMap_cons]
    cases he : entryKey? name line with
    | none => exact ih _ hrest
    | some result =>
      cases result with
      | error fault => cases hk _ he
      | ok key =>
        obtain ⟨es, hes, hmap⟩ := ih (n + 1) hrest
        exact ⟨(n, key) :: es, by rw [hes]; rfl, by rw [List.map_cons, hmap]; rfl⟩

lemma entriesFrom_of_not_readable (n : Nat) (lines : List Bytes)
    (h : ¬∀ line ∈ lines, IsReadableLine name line) :
    ∃ fault, entriesFrom name n lines = .error fault := by
  -- Only a fault ends the reading before the last line.
  induction lines generalizing n with
  | nil => exact absurd (by simp) h
  | cons line rest ih =>
    rw [List.forall_mem_cons, not_and] at h
    rw [entriesFrom_cons]
    by_cases hv : Utf8.isValid line
    · rw [if_pos hv]
      cases he : entryKey? name line with
      | none => exact ih _ (h ⟨hv, by simp [he]⟩)
      | some result =>
        cases result with
        | error fault => exact ⟨fault, rfl⟩
        | ok key =>
          obtain ⟨fault, hf⟩ := ih (n + 1) (h ⟨hv, by simp [he, Except.isOk, Except.toBool]⟩)
          exact ⟨fault, by rw [hf]; rfl⟩
    · exact ⟨_, if_neg hv⟩

lemma judge_of_differs {key : PublicKey} {es : List (Nat × KeyData)} {k : KeyData}
    (hk : k ∈ es.map (·.2)) (h : differs key k) : ∃ line, judge key es = .changed line := by
  obtain ⟨e, he, rfl⟩ := List.mem_map.1 hk
  cases hf : es.find? (differs key ·.2) with
  | none => exact absurd h (List.find?_eq_none.1 hf e he)
  | some found => exact ⟨found.1, by rw [judge, hf]⟩

lemma judge_of_not_differs {key : PublicKey} (hc : key.comment = "") {es : List (Nat × KeyData)}
    (h : ∀ k ∈ es.map (·.2), ¬differs key k) :
    judge key es = if key.data ∈ es.map (·.2) then .recorded else .unknown := by
  have hf : es.find? (differs key ·.2) = none :=
    List.find?_eq_none.2 fun e he => h _ (List.mem_map_of_mem he)
  have ha : es.any (fun e => key = ⟨e.2, ""⟩) ↔ key.data ∈ es.map (·.2) := by
    obtain ⟨data, comment⟩ := key
    subst hc
    simp [List.any_eq, eq_comm]
  rw [judge, hf]
  exact if_congr ha rfl rfl

variable {name : String} {content : Bytes} {key : PublicKey}

lemma lookupIn_of_readable (h : Readable (Utf8.encode name) content) :
    ∃ es : List (Nat × KeyData), es.map (·.2) = recordedKeys (Utf8.encode name) content ∧
      lookupIn content name key = judge key es := by
  obtain ⟨es, hes, hmap⟩ := entriesFrom_of_readable _ 1 _ h
  exact ⟨es, hmap, by rw [lookupIn, entries, hes]⟩

variable (key) in
lemma lookupIn_of_not_readable (h : ¬Readable (Utf8.encode name) content) :
    ∃ fault, lookupIn content name key = .failed fault := by
  obtain ⟨fault, hf⟩ := entriesFrom_of_not_readable _ 1 _ h
  exact ⟨fault, by rw [lookupIn, entries, hf]⟩

lemma lookupIn_of_changed (h : Readable (Utf8.encode name) content) {k : KeyData}
    (hk : k ∈ recordedKeys (Utf8.encode name) content) (ha : k.algorithm = key.algorithm)
    (hne : k ≠ key.data) : ∃ line, lookupIn content name key = .changed line := by
  obtain ⟨es, hes, hj⟩ := lookupIn_of_readable h
  rw [hj]
  refine judge_of_differs (hes ▸ hk) ?_
  have hkey : key ≠ ⟨k, ""⟩ := fun hkey => hne (by rw [hkey])
  simp [differs, ha, hkey]

lemma lookupIn_of_agreeing (h : Readable (Utf8.encode name) content) (hc : key.comment = "")
    (ha : ∀ k ∈ recordedKeys (Utf8.encode name) content,
      k.algorithm = key.algorithm → k = key.data) :
    lookupIn content name key =
      if key.data ∈ recordedKeys (Utf8.encode name) content then .recorded else .unknown := by
  obtain ⟨es, hes, hj⟩ := lookupIn_of_readable h
  rw [hj, judge_of_not_differs hc, hes]
  intro k hk hd
  rw [differs, Bool.and_eq_true, decide_eq_true_eq, decide_eq_true_eq] at hd
  refine hd.2 ?_
  rw [ha k (hes ▸ hk) hd.1, ← hc]

end RemoteBatch.HostKey.KnownHosts
