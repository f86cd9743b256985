import RemoteBatch.Proofs.Settings.Precedence
import RemoteBatch.Proofs.Text.Written

/-! The pairs that lines hold: a line holds what stands on both sides of its first `=`, and what is
written as pairs is read as them. Where no key is a path, a key has the value of its first pair, and
a file is read just when the values of its numbers are numbers. -/

namespace RemoteBatch.Settings

namespace KeyValue

variable {line key value : List Char}

structure Writable (p : KeyValue) : Prop where
  nonempty : p.1 ≠ []
  noEquals : '=' ∉ p.1
  noMark : p.1.head? ≠ some '#'
  oneLine : '\n' ∉ p.1
  valueOneLine : '\n' ∉ p.2
  getLast? : p.2.getLast? ≠ some '\r'

def lineOf (p : KeyValue) : List Char := p.1 ++ '=' :: p.2

lemma split?_eq_some_iff :
    split? line = some (key, value) ↔ '=' ∉ key ∧ line = lineOf (key, value) := by
  have hcut := List.takeWhile_append_dropWhile (p := (· ≠ '=')) (l := line)
  have hhead := List.head?_dropWhile_not (· ≠ '=') line
  constructor
  · intro h
    rw [split?] at h
    cases hd : line.dropWhile (· ≠ '=') with
    | nil =>
      rw [hd] at h
      cases h
    | cons c rest =>
      rw [hd] at h hcut hhead
      obtain rfl : c = '=' := by simpa using hhead
      cases h
      exact ⟨fun hm => by simpa using List.mem_takeWhile_imp hm, hcut.symm⟩
  · rintro ⟨hkey, rfl⟩
    have hne : ∀ c ∈ key, decide (c ≠ '=') = true := by
      intro c hc
      rw [decide_eq_true_eq]
      rintro rfl
      exact hkey hc
    rw [split?, lineOf, List.dropWhile_append_of_pos hne, List.takeWhile_append_of_pos hne]
    simp

lemma lineOf_inj {key' value' : List Char} (hkey : '=' ∉ key) (hkey' : '=' ∉ key')
    (h : lineOf (key, value) = lineOf (key', value')) : key = key' := by
  have hs : split? (lineOf (key, value)) = some (key, value) := split?_eq_some_iff.2 ⟨hkey, rfl⟩
  have hs' := split?_eq_some_iff.2 ⟨hkey', h⟩
  cases hs.symm.trans hs'
  rfl

lemma ofLine?_eq_some_iff :
    ofLine? line = some (key, value) ↔
      key ≠ [] ∧ '=' ∉ key ∧ key.head? ≠ some '#' ∧ line = lineOf (key, value) := by
  have hhead (hne : key ≠ []) : (lineOf (key, value)).head? = key.head? := by
    rw [lineOf, List.head?_append_of_ne_nil _ hne]
  simp only [ofLine?, isComment, decide_eq_true_eq]
  split
  next hmark =>
    constructor
    · rintro ⟨⟩
    · rintro ⟨hne, -, hno, rfl⟩
      exact absurd ((hhead hne).symm.trans hmark) hno
  next hmark =>
    simp only [Option.filter_eq_some_iff, split?_eq_some_iff, decide_eq_true_eq]
    constructor
    · rintro ⟨⟨heq, rfl⟩, hne⟩
      exact ⟨hne, heq, fun hh => hmark ((hhead hne).trans hh), rfl⟩
    · rintro ⟨hne, heq, -, rfl⟩
      exact ⟨⟨heq, rfl⟩, hne⟩

lemma ofLine?_lineOf {p : KeyValue} (h : p.Writable) : ofLine? (lineOf p) = some p :=
  ofLine?_eq_some_iff.2 ⟨h.nonempty, h.noEquals, h.noMark, rfl⟩

lemma ends_lineOf {p : KeyValue} (h : p.Writable) (e : Text.LineEnd) : e.Ends (lineOf p) := by
  refine ⟨by simp [lineOf, h.oneLine, h.valueOneLine], fun _ => ?_⟩
  have hr := h.getLast?
  rw [lineOf, List.getLast?_append, List.getLast?_cons]
  cases hl : p.2.getLast? with
  | none => simp
  | some c => simpa [hl] using hr

lemma ofText_written {ls : List (List Char × Text.LineEnd)} (h : ∀ l ∈ ls, l.2.Ends l.1) :
    ofText (Text.written ls) = (ls.map Prod.fst).filterMap ofLine? := by
  rw [ofText, Text.lines_written h]

lemma ofText_pairs {ps : List (KeyValue × Text.LineEnd)} (h : ∀ p ∈ ps, p.1.Writable) :
    ofText (Text.written (ps.map fun p => (lineOf p.1, p.2))) = ps.map Prod.fst := by
  have hends : ∀ l ∈ ps.map fun p => (lineOf p.1, p.2), l.2.Ends l.1 := by
    simp only [List.forall_mem_map]
    exact fun p hp => ends_lineOf (h p hp) p.2
  rw [ofText_written hends, List.map_map, List.filterMap_map, ← List.filterMap_eq_map]
  exact List.filterMap_congr fun p hp => ofLine?_lineOf (h p hp)

lemma areSteps_of_ne {c : Char} (hdot : c ≠ '.') (hbracket : c ≠ '[') (count : Nat)
    (steps : List Char) : areSteps count (c :: steps) = false := by
  cases count <;> simp [areSteps, hdot, hbracket]

lemma target_of_notMem (hdot : '.' ∉ key) (hbracket : '[' ∉ key) : target key = (key, .scalar) := by
  have hcut := List.takeWhile_append_dropWhile (p := isNameChar) (l := key)
  cases hd : key.dropWhile isNameChar with
  | nil =>
    have hname : key.takeWhile isNameChar = key := by rwa [hd, List.append_nil] at hcut
    simp [target, hd, hname]
  | cons c steps =>
    have hc : c ∈ key := by
      rw [← hcut, hd]
      simp
    have hsteps (count : Nat) : areSteps count (c :: steps) = false := by
      apply areSteps_of_ne
      · rintro rfl
        exact hdot hc
      · rintro rfl
        exact hbracket hc
    simp [target, hd, hsteps]

def Flat (pairs : List KeyValue) : Prop := ∀ p ∈ pairs, (target p.1).2 = .scalar

variable {pairs : List KeyValue}

lemma find_of_flat (h : Flat pairs) (name : String) :
    find pairs name = (first? pairs name).elim .absent .text := by
  have hnone : pairs.find? (fun p => (target p.1).1 = name.toList ∧ (target p.1).2 ≠ .scalar) =
      none := by
    rw [List.find?_eq_none]
    intro p hp
    simp [h p hp]
  simp only [find, first?, hnone]
  cases pairs.find? (·.1 = name.toList) <;> rfl

end KeyValue

namespace FileSettings

variable {pairs : List KeyValue} {key origin : String}

lemma textAt_of_flat (h : KeyValue.Flat pairs) :
    textAt pairs key = .ok (KeyValue.first? pairs key) := by
  rw [textAt, KeyValue.find_of_flat h]
  cases KeyValue.first? pairs key <;> rfl

lemma numberAt_of_flat (h : KeyValue.Flat pairs) {number : Option Nat}
    (hn : (KeyValue.first? pairs key).map numberOf? = number.map some) :
    numberAt origin pairs key = .ok number := by
  rw [numberAt, KeyValue.find_of_flat h]
  cases ht : KeyValue.first? pairs key with
  | none =>
    rw [ht] at hn
    obtain rfl := Option.map_eq_none_iff.1 hn.symm
    rfl
  | some text =>
    rw [ht] at hn
    obtain ⟨n, rfl, hread⟩ := Option.map_eq_some_iff.1 hn.symm
    simp only [Option.elim_some]
    rw [← hread]

lemma portAt_of_flat (h : KeyValue.Flat pairs) {port : Option Nat}
    (hp : (KeyValue.first? pairs key).map
      (fun text => (numberOf? text).filter (· ≤ Decimal.maxUInt16)) = port.map some) :
    portAt origin pairs key = .ok port := by
  cases ht : KeyValue.first? pairs key with
  | none =>
    rw [ht] at hp
    obtain rfl := Option.map_eq_none_iff.1 hp.symm
    have hn : (KeyValue.first? pairs key).map numberOf? = (none : Option Nat).map some := by
      rw [ht]
      rfl
    rw [portAt, numberAt_of_flat h hn]
    rfl
  | some text =>
    rw [ht] at hp
    obtain ⟨n, rfl, hfilter⟩ := Option.map_eq_some_iff.1 hp.symm
    obtain ⟨hread, hle⟩ := Option.filter_eq_some_iff.1 hfilter.symm
    have hn : (KeyValue.first? pairs key).map numberOf? = (some n).map some := by
      rw [ht, Option.map_some, hread]
      rfl
    rw [portAt, numberAt_of_flat h hn]
    exact if_pos (by simpa using hle)

lemma ofText_eq_ok_iff {text : List Char} (h : KeyValue.Flat (KeyValue.ofText text))
    {file : FileSettings} :
    ofText origin text = .ok file ↔ FoundIn (KeyValue.ofText text) file := by
  refine ⟨foundIn_of_ofText, fun hfound => ?_⟩
  simp only [ofText, textAt_of_flat h, portAt_of_flat h hfound.port,
    numberAt_of_flat h hfound.timeout, hfound.host, hfound.user, hfound.password]
  rfl

end FileSettings

end RemoteBatch.Settings
