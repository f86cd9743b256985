import RemoteBatch.Proofs.Files.Append
import RemoteBatch.Proofs.HostKey.FirstUse
import RemoteBatch.Proofs.HostKey.Recording

/-! A known-hosts file as a table of keys: checking keys against the file is looking them up in the
table, and a first use fills one cell of it. -/

namespace RemoteBatch.HostKey

abbrev Pins := String → Algorithm → Option KeyData

def Pins.pin (pins : Pins) (name : String) (key : KeyData) : Pins := fun n a =>
  if n = name ∧ a = key.algorithm then some key else pins n a

structure Check where
  learns : Bool
  knownHosts : Option Path
  host : String
  port : Nat
  key : PublicKey

namespace Check

def name (c : Check) : String := KnownHosts.name c.host c.port

def policy (c : Check) : Policy :=
  if c.learns then .trustOnFirstUse c.knownHosts else .strictKnownHosts c.knownHosts

def onFile (c : Check) (t : FileTree) : Bool × FileTree :=
  let v := c.policy.verify t c.host c.port c.key
  (v.accepted, v.files)

def onPins (c : Check) (pins : Pins) : Bool × Pins :=
  match pins c.name c.key.algorithm with
  | some pinned => (pinned = c.key.data, pins)
  | none => if c.learns then (true, pins.pin c.name c.key.data) else (false, pins)

def all {σ : Type} (answer : Check → σ → Bool × σ) : List Check → σ → List Bool × σ
  | [], s => ([], s)
  | c :: cs, s =>
    let (accepted, s) := answer c s
    let (rest, s) := all answer cs s
    (accepted :: rest, s)

end Check

namespace KnownHosts

structure Consistent (name content : Bytes) : Prop where
  readable : Readable name content
  unique : ∀ k ∈ recordedKeys name content, ∀ k' ∈ recordedKeys name content,
    k.algorithm = k'.algorithm → k = k'

def pins (content : Bytes) : Pins := fun name a =>
  (recordedKeys (Utf8.encode name) content).find? (·.algorithm = a)

variable {name : String} {content : Bytes} {key : PublicKey} {k : KeyData}

lemma algorithm_of_pins {a : Algorithm} (h : pins content name a = some k) : k.algorithm = a := by
  simpa using List.find?_some h

lemma pins_eq_some_iff (hc : Consistent (Utf8.encode name) content) :
    pins content name k.algorithm = some k ↔ k ∈ recordedKeys (Utf8.encode name) content := by
  refine ⟨List.mem_of_find?_eq_some, fun hk => ?_⟩
  cases hf : pins content name k.algorithm with
  | none => exact absurd (List.find?_eq_none.1 hf k hk) (by simp)
  | some k' =>
    rw [hc.unique k' (List.mem_of_find?_eq_some hf) k hk (algorithm_of_pins hf)]

lemma lookupIn_of_pinned (hc : Consistent (Utf8.encode name) content) (hkey : key.comment = "")
    (h : pins content name key.algorithm = some key.data) :
    lookupIn content name key = .recorded := by
  have hmem := (pins_eq_some_iff hc).1 h
  rw [lookupIn_of_agreeing hc.readable hkey, if_pos hmem]
  intro k hk ha
  exact hc.unique k hk key.data hmem ha

lemma lookupIn_of_pinned_other (hc : Consistent (Utf8.encode name) content)
    (h : pins content name key.algorithm = some k) (hne : k ≠ key.data) :
    ∃ line, lookupIn content name key = .changed line :=
  lookupIn_of_changed hc.readable (List.mem_of_find?_eq_some h) (algorithm_of_pins h) hne

lemma ne_of_unpinned (h : pins content name key.algorithm = none) :
    ∀ k ∈ recordedKeys (Utf8.encode name) content, k.algorithm ≠ key.algorithm := by
  simpa using List.find?_eq_none.1 h

lemma lookupIn_of_unpinned (hc : Consistent (Utf8.encode name) content) (hkey : key.comment = "")
    (h : pins content name key.algorithm = none) : lookupIn content name key = .unknown := by
  rw [lookupIn_of_agreeing hc.readable hkey, if_neg fun hmem => ne_of_unpinned h _ hmem rfl]
  intro k hk ha
  exact absurd ha (ne_of_unpinned h k hk)

lemma pins_append_addition (hn : IsPlainName name) (hk : Storable key.data)
    (hkey : key.comment = "") (h : pins content name key.algorithm = none) :
    pins (content ++ addition name key content) = (pins content).pin name key.data := by
  funext n a
  rw [pins, recordedKeys_append_addition _ hn hk hkey, List.find?_append, Pins.pin]
  change (pins content n a).or _ = _
  by_cases hname : n = name
  · subst hname
    rw [if_pos rfl]
    by_cases ha : key.data.algorithm = a
    · subst ha
      rw [if_pos ⟨rfl, rfl⟩, show pins content n key.data.algorithm = none from h]
      simp
    · rw [if_neg fun hand => ha hand.2.symm]
      simp [ha]
  · rw [if_neg fun he => hname (Utf8.encode_inj he).symm, if_neg fun hand => hname hand.1]
    simp

lemma Consistent.append_addition {n : Bytes} (hc : Consistent n content) (hn : IsPlainName name)
    (hk : Storable key.data) (hkey : key.comment = "")
    (h : pins content name key.algorithm = none) :
    Consistent n (content ++ addition name key content) := by
  refine ⟨hc.readable.append_addition n hn hk hkey, ?_⟩
  rw [recordedKeys_append_addition n hn hk hkey]
  split_ifs with he
  · subst he
    have hold := ne_of_unpinned h
    simp only [List.mem_append, List.mem_singleton]
    rintro k (hm | rfl) k' (hm' | rfl) ha
    · exact hc.unique k hm k' hm' ha
    · exact absurd ha (hold k hm)
    · exact absurd ha.symm (hold k' hm')
    · rfl
  · rw [List.append_nil]
    exact hc.unique

inductive Keeps (t : FileTree) (p : Path) : Bytes → Prop
  | present {content more : Bytes} (hfind : t.find p = .ok (.file content))
    (hwrite : t.AppendsTo p more) : Keeps t p content
  | missing {fault : FileFault} (hfind : t.find p = .error fault) (hwrite : t.AppendsTo p []) :
    Keeps t p []

variable {t : FileTree} {p : Path}

lemma Keeps.content_eq (h : Keeps t p content) : KnownHosts.content t p = .ok content := by
  cases h with
  | present hfind => exact content_of_file hfind
  | missing hfind => rw [KnownHosts.content, hfind]

lemma Keeps.appendsTo (h : Keeps t p content) : t.AppendsTo p content := by
  cases h with
  | present hfind hwrite => exact hwrite.of_find hfind
  | missing _ hwrite => exact hwrite

lemma Keeps.learn (h : Keeps t p content) (name : String) (key : PublicKey) :
    ∃ v, KnownHosts.learn t p name key = (v, .ok ()) ∧
      Keeps v p (content ++ addition name key content) ∧ v.home = t.home := by
  obtain ⟨u, v, hm, ha, hf, hw, hh⟩ := h.appendsTo.append (addition name key)
  refine ⟨v, ?_, .present hf hw, hh⟩
  rw [KnownHosts.learn, hm]
  dsimp only
  rw [ha]

end KnownHosts

namespace Check

open KnownHosts

structure Fits (t : FileTree) (p : Path) (c : Check) : Prop where
  knownHosts : c.knownHosts.getD (Policy.defaultKnownHosts t) = p
  name : IsPlainName c.name
  key : Storable c.key.data
  comment : c.key.comment = ""

variable {t : FileTree} {p : Path} {content : Bytes}

lemma onFile_eq {c : Check} (hp : c.knownHosts.getD (Policy.defaultKnownHosts t) = p) :
    c.onFile t =
      match lookup t p c.name c.key with
      | .recorded => (true, t)
      | .changed _ => (false, t)
      | .unknown | .failed _ =>
        if c.learns then (true, (learn t p c.name c.key).1) else (false, t) := by
  cases hl : c.learns with
  | true =>
    have hv : c.policy.verify t c.host c.port c.key =
        Policy.verifyFirstUse t p c.host c.port c.key := by
      rw [policy, hl, ← hp]
      rfl
    have hnew := Policy.acceptNew_accepted t c.host c.port c.key p
    have hfiles := Policy.acceptNew_files t c.host c.port c.key p
    rw [onFile, hv, Policy.verifyFirstUse, name]
    cases lookup t p (KnownHosts.name c.host c.port) c.key with
    | recorded => rfl
    | changed line => rfl
    | unknown => exact Prod.ext hnew hfiles
    | failed fault => exact Prod.ext hnew hfiles
  | false =>
    have hv : c.policy.verify t c.host c.port c.key =
        Policy.verifyStrict t p c.host c.port c.key := by
      rw [policy, hl, ← hp]
      rfl
    rw [onFile, hv, Policy.verifyStrict, name]
    cases lookup t p (KnownHosts.name c.host c.port) c.key <;> rfl

lemma onFile_refines {c : Check} (hf : c.Fits t p) (hk : Keeps t p content)
    (hc : Consistent (Utf8.encode c.name) content) :
    ∃ content', (c.onFile t).1 = (c.onPins (pins content)).1 ∧
      pins content' = (c.onPins (pins content)).2 ∧ Keeps (c.onFile t).2 p content' ∧
      (c.onFile t).2.home = t.home ∧ ∀ n, Consistent n content → Consistent n content' := by
  rw [onFile_eq hf.knownHosts, lookup_of_content hk.content_eq]
  cases hpin : pins content c.name c.key.algorithm with
  | some pinned =>
    by_cases he : pinned = c.key.data
    · subst he
      rw [lookupIn_of_pinned hc hf.comment hpin]
      exact ⟨content, by simp [onPins, hpin], by simp [onPins, hpin], hk, rfl, fun _ h => h⟩
    · obtain ⟨line, hl⟩ := lookupIn_of_pinned_other hc hpin he
      rw [hl]
      exact ⟨content, by simp [onPins, hpin, he], by simp [onPins, hpin], hk, rfl, fun _ h => h⟩
  | none =>
    rw [lookupIn_of_unpinned hc hf.comment hpin]
    cases hl : c.learns with
    | false =>
      exact ⟨content, by simp [onPins, hpin, hl], by simp [onPins, hpin, hl], hk, rfl, fun _ h => h⟩
    | true =>
      obtain ⟨v, hv, hkeeps, hhome⟩ := hk.learn c.name c.key
      refine ⟨content ++ addition c.name c.key content, by simp [onPins, hpin, hl], ?_, ?_, ?_, ?_⟩
      · rw [pins_append_addition hf.name hf.key hf.comment hpin]
        simp [onPins, hpin, hl]
      · simpa [hv] using hkeeps
      · simpa [hv] using hhome
      · exact fun n h => h.append_addition hf.name hf.key hf.comment hpin

lemma Fits.of_home {c : Check} {u : FileTree} (h : c.Fits t p) (hu : u.home = t.home) :
    c.Fits u p := by
  refine ⟨?_, h.name, h.key, h.comment⟩
  rw [← h.knownHosts, Policy.defaultKnownHosts, Policy.defaultKnownHosts, hu]

lemma all_onFile_refines (names : Bytes → Prop) (cs : List Check) (hk : Keeps t p content)
    (hf : ∀ c ∈ cs, c.Fits t p ∧ names (Utf8.encode c.name))
    (hc : ∀ n, names n → Consistent n content) :
    ∃ content', (all onFile cs t).1 = (all onPins cs (pins content)).1 ∧
      pins content' = (all onPins cs (pins content)).2 ∧ Keeps (all onFile cs t).2 p content' ∧
      ∀ n, names n → Consistent n content' := by
  -- A check may write for its own name only, but all names are read from the file it leaves.
  induction cs generalizing t content with
  | nil => exact ⟨content, rfl, rfl, hk, hc⟩
  | cons c cs ih =>
    obtain ⟨⟨hfits, hname⟩, hrest⟩ := List.forall_mem_cons.1 hf
    obtain ⟨next, hanswer, hpins, hkeeps, hhome, hcons⟩ :=
      onFile_refines hfits hk (hc _ hname)
    obtain ⟨last, hanswers, hlast, hkeeps', hcons'⟩ := ih hkeeps
      (fun d hd => ⟨(hrest d hd).1.of_home hhome, (hrest d hd).2⟩) fun n hn => hcons n (hc n hn)
    rw [hpins] at hanswers hlast
    exact ⟨last, by simp only [all, hanswer, hanswers], hlast, hkeeps', hcons'⟩

lemma onPins_of_accepted {c : Check} {table : Pins} (h : (c.onPins table).1 = true) :
    (c.onPins table).2 c.name c.key.algorithm = some c.key.data := by
  unfold onPins at h ⊢
  cases hp : table c.name c.key.algorithm with
  | some pinned =>
    rw [hp] at h
    obtain rfl : pinned = c.key.data := by simpa using h
    exact hp
  | none =>
    cases hl : c.learns with
    | true => exact if_pos ⟨rfl, rfl⟩
    | false =>
      rw [hp, hl] at h
      cases h

lemma onPins_of_pinned (c : Check) {table : Pins} {n : String} {a : Algorithm} {k : KeyData}
    (h : table n a = some k) : (c.onPins table).2 n a = some k := by
  unfold onPins
  cases hp : table c.name c.key.algorithm with
  | some pinned => exact h
  | none =>
    have hne : ¬(n = c.name ∧ a = c.key.data.algorithm) := by
      rintro ⟨rfl, rfl⟩
      rw [show table c.name c.key.data.algorithm = none from hp] at h
      cases h
    cases c.learns with
    | true => exact (if_neg hne).trans h
    | false => exact h

lemma all_onPins_of_pinned (cs : List Check) {table : Pins} {n : String} {a : Algorithm}
    {k : KeyData} (h : table n a = some k) : (all onPins cs table).2 n a = some k := by
  induction cs generalizing table with
  | nil => exact h
  | cons c cs ih => exact ih (onPins_of_pinned c h)

lemma all_onPins_of_accepted {cs : List Check} {table : Pins} {c : Check}
    (h : (c, true) ∈ cs.zip (all onPins cs table).1) :
    (all onPins cs table).2 c.name c.key.algorithm = some c.key.data := by
  induction cs generalizing table with
  | nil => cases h
  | cons d cs ih =>
    -- What the first check pins stays pinned through the others.
    rcases List.mem_cons.1 h with he | hm
    · obtain ⟨rfl, ha⟩ := Prod.mk.inj he
      exact all_onPins_of_pinned cs (onPins_of_accepted ha.symm)
    · exact ih hm

/-- Checks against a file answer as its table does, whichever names, algorithms and policies follow
one another; the file stays consistent, and of two keys of one algorithm for one name at most one is
ever accepted. -/
theorem all_onFile_refines_pins (t : FileTree) (p : Path) (content : Bytes) (cs : List Check)
    (hkeeps : Keeps t p content) (hfits : ∀ c ∈ cs, c.Fits t p)
    (hconsistent : ∀ c ∈ cs, Consistent (Utf8.encode c.name) content) :
    (all onFile cs t).1 = (all onPins cs (pins content)).1 ∧
    (∃ content', Keeps (all onFile cs t).2 p content' ∧
      pins content' = (all onPins cs (pins content)).2 ∧
      ∀ c ∈ cs, Consistent (Utf8.encode c.name) content') ∧
    ∀ c d, (c, true) ∈ cs.zip (all onFile cs t).1 → (d, true) ∈ cs.zip (all onFile cs t).1 →
      c.name = d.name → c.key.algorithm = d.key.algorithm → c.key.data = d.key.data := by
  obtain ⟨content', hanswers, hpins, hkeeps', hconsistent'⟩ :=
    all_onFile_refines (fun n => ∃ c ∈ cs, n = Utf8.encode c.name) cs hkeeps
      (fun c hc => ⟨hfits c hc, c, hc, rfl⟩) (by
        rintro n ⟨c, hc, rfl⟩
        exact hconsistent c hc)
  refine ⟨hanswers, ⟨content', hkeeps', hpins, fun c hc => hconsistent' _ ⟨c, hc, rfl⟩⟩, ?_⟩
  intro c d hc hd hname halgorithm
  rw [hanswers] at hc hd
  have hk := all_onPins_of_accepted hc
  rw [hname, halgorithm, all_onPins_of_accepted hd] at hk
  exact (Option.some.inj hk).symm

def exampleChecks : List Check :=
  [(false, 22, 1), (true, 22, 1), (true, 22, 2), (false, 22, 1), (true, 2222, 2),
    (false, 22, 2)].map fun (learns, port, seed) =>
      ⟨learns, some (Utf8.encode "kh"), "router", port, Policy.exampleKey seed⟩

theorem all_onFile_refines_pins_router :
    (all onFile exampleChecks (Policy.exampleTree (Utf8.encode "# mine"))).1 =
      [false, true, false, true, true, false] := by
  refine (all_onFile_refines_pins _ (Utf8.encode "kh") (Utf8.encode "# mine") _ ?_ ?_ ?_).1.trans
    (by decide +kernel)
  · exact .present rfl ⟨_, _, rfl, rfl⟩
  · intro c hc
    have hname : ∀ c ∈ exampleChecks, (' ' ∉ c.name.toList ∧ ',' ∉ c.name.toList ∧
        '\n' ∉ c.name.toList) ∧ c.name.toList.head? ≠ some '#' ∧
        c.name.toList.head? ≠ some '|' := by decide +kernel
    have hkey : ∀ c ∈ exampleChecks, (KeyData.decode? c.key.data.encode = some (c.key.data, []) ∧
        space ∉ c.key.data.algorithm.label ∧ lineFeed ∉ c.key.data.algorithm.label) ∧
        c.key.comment = "" ∧ c.knownHosts = some (Utf8.encode "kh") := by decide +kernel
    obtain ⟨⟨hs, hcomma, hl⟩, hh, hb⟩ := hname c hc
    obtain ⟨⟨hd, hs', hl'⟩, hcomment, hp⟩ := hkey c hc
    exact ⟨by rw [hp]; rfl, ⟨hs, hcomma, hl, hh, hb⟩, ⟨⟨_, _, hd⟩, hs', hl'⟩, hcomment⟩
  · have h : ∀ c ∈ exampleChecks, Readable (Utf8.encode c.name) (Utf8.encode "# mine") ∧
        recordedKeys (Utf8.encode c.name) (Utf8.encode "# mine") = [] := by decide +kernel
    intro c hc
    exact ⟨(h c hc).1, by simp [(h c hc).2]⟩

end Check

end RemoteBatch.HostKey
