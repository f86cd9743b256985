import Mathlib.Data.Nat.Init
import RemoteBatch.Proofs.Settings.Readings
import RemoteBatch.Proofs.Text.Decoded

/-! How a command line spells options and their values. What is read from the left, with an option
waiting for its value, is what the line spells, recorded option by option. -/

namespace RemoteBatch.Settings

open Arguments.Token Arguments.Reading

/-- Options in the order in which they are given; one that takes no value has an empty one. -/
abbrev Given := List (Flag × Bytes)

def Flag.isSwitch : Flag → Bool
  | dryRun | verbose => true
  | _ => false

namespace Arguments

def IsValue (argument : Bytes) : Prop := argument = [dash] ∨ argument.head? ≠ some dash

def verboseLetter : UInt8 := 118

def commandLetter : UInt8 := 99

def cluster (n : Nat) (rest : Bytes) : Bytes := dash :: (List.replicate n verboseLetter ++ rest)

def repeated (n : Nat) : Given := List.replicate n (.verbose, [])

inductive Writes : List Bytes → Given → Prop
  | attached {flag : Flag} (hf : flag.takesValue) (value : Bytes) :
      Writes [Utf8.encode (flag.dashed ++ "=") ++ value] [(flag, value)]
  | separate {flag : Flag} (hf : flag.takesValue) {value : Bytes} (hv : IsValue value) :
      Writes [Utf8.encode flag.dashed, value] [(flag, value)]
  | switch {flag : Flag} (hf : flag.isSwitch) : Writes [Utf8.encode flag.dashed] [(flag, [])]
  | letters {n : Nat} (hn : n ≠ 0) : Writes [cluster n []] (repeated n)
  | lettersAttached (n : Nat) {text : Bytes} (ht : text ≠ []) :
      Writes [cluster n (commandLetter :: text)]
        (repeated n ++ [(.command, Reading.attached text)])
  | lettersSeparate (n : Nat) {value : Bytes} (hv : IsValue value) :
      Writes [cluster n [commandLetter], value] (repeated n ++ [(.command, value)])

inductive Spells : List Bytes → Given → Prop
  | nil : Spells [] []
  | separator : Spells [Utf8.encode "--"] []
  | append {line rest : List Bytes} {options given : Given} (hw : Writes line options)
      (hs : Spells rest given) : Spells (line ++ rest) (options ++ given)

/-! ### Single arguments -/

lemma ofLong?_long (flag : Flag) : Flag.ofLong? flag.long = some flag := by
  cases flag <;> decide

lemma long_of_ofLong? {name : String} {flag : Flag} (h : Flag.ofLong? name = some flag) :
    flag.long = name := by
  simpa using List.find?_some h

lemma ofArgument_dashed (flag : Flag) :
    ofArgument (Utf8.encode flag.dashed) = .long (Utf8.encode flag.long) none := by
  cases flag <;> decide +kernel

lemma notMem_long (flag : Flag) : equals ∉ Utf8.encode flag.long := by
  cases flag <;> decide +kernel

lemma encode_dashed_equals (flag : Flag) :
    Utf8.encode (flag.dashed ++ "=") = dash :: dash :: (Utf8.encode flag.long ++ [equals]) := by
  rw [Utf8.encode_append, Flag.dashed, Utf8.encode_append]
  rfl

lemma ofArgument_long {name : Bytes} (h : equals ∉ name) (value : Bytes) :
    ofArgument (dash :: dash :: (name ++ equals :: value)) = .long name (some value) := by
  have hname : ∀ b ∈ name, decide (b ≠ equals) = true := by
    intro b hb
    rw [decide_eq_true_eq]
    rintro rfl
    exact h hb
  have hne : name ++ equals :: value ≠ [] := by simp
  rw [ofArgument, if_neg (by simp), if_neg (by simp), if_neg hne,
    List.dropWhile_append_of_pos hname, List.takeWhile_append_of_pos hname]
  simp

lemma ofArgument_attached (flag : Flag) (value : Bytes) :
    ofArgument (Utf8.encode (flag.dashed ++ "=") ++ value) =
      .long (Utf8.encode flag.long) (some value) := by
  rw [encode_dashed_equals]
  simpa using ofArgument_long (notMem_long flag) value

lemma ofArgument_cases (argument : Bytes) :
    match ofArgument argument with
    | .separator => argument = [dash, dash]
    | .long name none => argument = dash :: dash :: name
    | .long name (some value) => argument = dash :: dash :: (name ++ equals :: value)
    | .letters bs => argument = dash :: bs ∧ bs ≠ [] ∧ bs.head? ≠ some dash
    | .plain => IsValue argument := by
  rcases argument with - | ⟨a, - | ⟨b, t⟩⟩
  · exact .inr (by simp)
  · by_cases ha : a = dash
    · exact .inl (by rw [ha])
    · exact .inr (by simpa using ha)
  by_cases ha : a = dash
  · subst ha
    by_cases hb : b = dash
    · subst hb
      by_cases ht : t = []
      · simp [ofArgument, ht]
      · have hcut := List.takeWhile_append_dropWhile (p := (· ≠ equals)) (l := t)
        have hhead := List.head?_dropWhile_not (· ≠ equals) t
        rw [ofArgument, if_neg (by simp), if_neg (by simp), if_neg ht]
        cases hd : t.dropWhile (· ≠ equals) with
        | nil => rfl
        | cons x value =>
          rw [hd] at hcut hhead
          obtain rfl : x = equals := by simpa using hhead
          exact congrArg (dash :: dash :: ·) hcut.symm
    · simp [ofArgument, hb]
  · have hp : ofArgument (a :: b :: t) = .plain := if_pos ha
    rw [hp]
    exact .inr (by simpa using ha)

lemma ofArgument_value {argument : Bytes} (h : IsValue argument) :
    ofArgument argument = .plain := by
  rcases h with rfl | h
  · rfl
  · rcases argument with - | ⟨a, - | ⟨b, t⟩⟩
    · rfl
    · rfl
    · exact if_pos (by simpa using h)

/-! ### Recording -/

namespace Reading

def recordAll (r : Reading) (given : Given) : Except Halt Reading :=
  given.foldlM (fun r p => r.record p.1 (some p.2)) r

variable {r s : Reading} {flag : Flag}

lemma recordAll_cons (r : Reading) (flag : Flag) (value : Bytes) (given : Given) :
    r.recordAll ((flag, value) :: given) =
      r.record flag (some value) >>= (recordAll · given) := rfl

lemma recordAll_append (r : Reading) (given later : Given) :
    r.recordAll (given ++ later) = r.recordAll given >>= (recordAll · later) :=
  List.foldlM_append

lemma waiting_of_record {value : Option Bytes} (h : r.record flag value = .ok s) :
    s.waiting = r.waiting := by
  simp only [record] at h
  split at h
  · cases h
  split at h
  · cases h
  obtain ⟨a, -, h⟩ := bind_eq_ok.1 h
  cases h
  rfl

lemma settle_of_idle (h : r.waiting = none) : r.settle = .ok r := by
  rw [settle, h]

lemma waiting_of_settle (h : r.settle = .ok s) : s.waiting = none := by
  rw [settle] at h
  split at h
  next hw =>
    cases h
    exact hw
  next => exact (waiting_of_record h : s.waiting = none)

lemma settle_of_awaiting (hf : flag.takesValue) (h : r.waiting = some (flag, none)) :
    r.settle = .error (.usage (.valueRequired flag)) := by
  simp only [settle, h, record, hf]
  rfl

lemma settle_of_value {value : Bytes} (h : r.waiting = none) :
    settle { r with waiting := some (flag, some value) } = r.record flag (some value) := by
  obtain ⟨a, g, w⟩ := r
  cases h
  rfl

lemma record_switch (hf : flag.isSwitch) : r.record flag none = r.record flag (some []) := by
  cases flag <;> first | rfl | cases hf

lemma take_of_idle (h : r.waiting = none) (flag : Flag) (value : Bytes) :
    r.take flag value = r.record flag (some value) := by
  rw [take, settle_of_idle h]
  rfl

lemma await_of_idle (h : r.waiting = none) (flag : Flag) :
    r.await flag = .ok { r with waiting := some (flag, none) } := by
  rw [await, settle_of_idle h]
  rfl

lemma raise_of_idle (h : r.waiting = none) (hf : flag.isSwitch) (long : Bool) :
    r.raise flag long = r.record flag (some []) := by
  rw [← record_switch hf, raise, settle_of_idle h]
  cases flag <;> first | rfl | cases hf

/-! ### An option that waits is settled first -/

/-- What succeeds only if it succeeds behind the option that waits. -/
def SettlesFirst (f : Reading → Except Halt Reading) : Prop :=
  ∀ r s, f r = .ok s ↔ ∃ r₁, r.settle = .ok r₁ ∧ f r₁ = .ok s

section SettlesFirst

variable {f : Reading → Except Halt Reading}

lemma SettlesFirst.of_settle (g : Reading → Except Halt Reading) :
    SettlesFirst fun r => r.settle >>= g := by
  intro r s
  simp only [bind_eq_ok]
  constructor
  · rintro ⟨r₁, hr, hs⟩
    exact ⟨r₁, hr, r₁, settle_of_idle (waiting_of_settle hr), hs⟩
  · rintro ⟨r₁, hr, r₂, hr₂, hs⟩
    rw [settle_of_idle (waiting_of_settle hr)] at hr₂
    cases hr₂
    exact ⟨r₁, hr, hs⟩

lemma SettlesFirst.of_error {halt : Halt} (h : ∀ r, f r = .error halt) : SettlesFirst f := by
  intro r s
  simp [h]

lemma SettlesFirst.bind (h : SettlesFirst f) (g : Reading → Except Halt Reading) :
    SettlesFirst fun r => f r >>= g := by
  intro r s
  simp only [bind_eq_ok, h r]
  constructor
  · rintro ⟨x, ⟨r₁, hr, hx⟩, hs⟩
    exact ⟨r₁, hr, x, hx, hs⟩
  · rintro ⟨r₁, hr, x, hx, hs⟩
    exact ⟨x, ⟨r₁, hr, hx⟩, hs⟩

lemma settlesFirst_settle : SettlesFirst settle := by
  intro r s
  constructor
  · intro h
    exact ⟨s, h, settle_of_idle (waiting_of_settle h)⟩
  · rintro ⟨r₁, hr, hs⟩
    rw [settle_of_idle (waiting_of_settle hr)] at hs
    cases hs
    exact hr

lemma settlesFirst_raise (flag : Flag) (long : Bool) : SettlesFirst (raise · flag long) :=
  .of_settle _

lemma settlesFirst_readLong (name : Bytes) (value : Option Bytes) :
    SettlesFirst (readLong · name value) := by
  simp only [readLong]
  split
  · exact .of_error fun _ => rfl
  · split
    · exact .of_settle _
    · exact .of_settle _
    · exact .of_error fun _ => rfl
    · exact settlesFirst_raise _ _

lemma settlesFirst_readLetters {bs : Bytes} (h : bs ≠ []) : SettlesFirst (readLetters · 0 bs) := by
  obtain ⟨a, t, rfl⟩ := List.exists_cons_of_ne_nil h
  simp only [readLetters]
  split
  · exact .of_error fun _ => rfl
  · split
    · exact .of_error fun _ => rfl
    · split
      · split
        · exact .of_settle _
        · exact .of_settle _
      · exact (settlesFirst_raise _ _).bind _

lemma settlesFirst_readAll {argv : List Bytes} (h : ∀ a, argv.head? = some a → ¬IsValue a) :
    SettlesFirst (readAll · argv) := by
  rcases argv with - | ⟨argument, rest⟩
  · exact settlesFirst_settle
  have hcases := ofArgument_cases argument
  simp only [readAll_cons]
  split
  · split
    · exact settlesFirst_settle
    · exact .of_error fun _ => rfl
  · exact (settlesFirst_readLong _ _).bind _
  next bs hl =>
    rw [hl] at hcases
    exact (settlesFirst_readLetters hcases.2.1).bind _
  next hp =>
    rw [hp] at hcases
    exact absurd hcases (h argument rfl)

end SettlesFirst

/-! ### Letters -/

lemma of_front_letter {a b : UInt8} {t : Bytes} {letter : Char} {n : Nat}
    (hf : Utf8.front a t = (some letter, n)) (hb : String.utf8EncodeChar letter = [b]) :
    a = b ∧ n = 0 := by
  obtain ⟨hn, he⟩ := Utf8.encodeChar_of_front hf
  rw [hb] at he
  obtain ⟨rfl, ht⟩ := List.cons.inj he
  refine ⟨rfl, ?_⟩
  rcases List.take_eq_nil_iff.1 ht.symm with h | rfl
  · exact h
  · exact Nat.le_zero.1 hn

lemma short?_of_ofShort? {letter : Char} (h : Flag.ofShort? letter = some flag) :
    flag.short? = some letter := by
  simpa using List.find?_some h

lemma readLetters_verbose (h : r.waiting = none) (t : Bytes) :
    r.readLetters 0 (verboseLetter :: t) =
      r.record .verbose (some []) >>= (readLetters · 0 t) := by
  have hf : Utf8.front verboseLetter t = (some 'v', 0) := rfl
  have hv : Flag.ofShort? 'v' = some .verbose := by decide
  rw [readLetters, hf]
  simp only [hv]
  rw [if_neg (by decide), raise_of_idle h (by decide)]

lemma readLetters_command (r : Reading) (t : Bytes) :
    r.readLetters 0 (commandLetter :: t) =
      if t = [] then r.await .command else r.take .command (attached t) := by
  have hf : Utf8.front commandLetter t = (some 'c', 0) := rfl
  have hc : Flag.ofShort? 'c' = some .command := by decide
  rw [readLetters, hf]
  simp only [hc]
  rw [if_pos (by decide), List.drop_zero]

lemma waiting_of_recordAll {given : Given} (h : r.recordAll given = .ok s) :
    s.waiting = r.waiting := by
  induction given generalizing r with
  | nil =>
    cases h
    rfl
  | cons p given ih =>
    obtain ⟨r₁, h₁, h⟩ := bind_eq_ok.1 h
    exact (ih h).trans (waiting_of_record h₁)

lemma readLetters_repeated (h : r.waiting = none) (n : Nat) (rest : Bytes) :
    r.readLetters 0 (List.replicate n verboseLetter ++ rest) =
      r.recordAll (repeated n) >>= (readLetters · 0 rest) := by
  induction n generalizing r with
  | zero => rfl
  | succ n ih =>
    rw [List.replicate_succ, List.cons_append, readLetters_verbose h, repeated,
      List.replicate_succ, recordAll_cons]
    cases hr : r.record .verbose (some []) with
    | error halt => rfl
    | ok r₁ => exact ih ((waiting_of_record hr).trans h)

lemma letters_of_readLetters (h : r.waiting = none) {bs : Bytes}
    (hs : r.readLetters 0 bs = .ok s) :
    ∃ n rest, bs = List.replicate n verboseLetter ++ rest ∧
      (rest = [] ∨ ∃ text, rest = commandLetter :: text) := by
  induction bs generalizing r with
  | nil => exact ⟨0, [], rfl, .inl rfl⟩
  | cons a t ih =>
    have hletters := hs
    rw [readLetters] at hs
    split at hs
    · cases hs
    next letter m hf =>
    split at hs
    · cases hs
    next flag hflag =>
    have hshort := short?_of_ofShort? hflag
    cases flag <;> simp only [Flag.short?, Option.some.injEq, reduceCtorEq] at hshort
    all_goals subst hshort
    case command =>
      obtain ⟨rfl, -⟩ := of_front_letter (b := commandLetter) hf (by decide)
      exact ⟨0, _, rfl, .inr ⟨t, rfl⟩⟩
    case verbose =>
      obtain ⟨rfl, -⟩ := of_front_letter (b := verboseLetter) hf (by decide)
      rw [readLetters_verbose h] at hletters
      obtain ⟨r₁, hr, ht⟩ := bind_eq_ok.1 hletters
      obtain ⟨n, rest, rfl, hrest⟩ := ih ((waiting_of_record hr).trans h) ht
      exact ⟨n + 1, rest, rfl, hrest⟩
    all_goals
      rw [if_neg (by decide), raise, settle_of_idle h] at hs
      cases hs

/-! ### An option and its value -/

lemma readAll_of_value {value : Bytes} (hv : IsValue value) (r : Reading) (rest : List Bytes) :
    r.readAll (value :: rest) = r.readPlain value >>= (readAll · rest) := by
  rw [readAll_cons, ofArgument_value hv]

lemma readPlain_ne_ok (h : ∀ flag, r.waiting ≠ some (flag, none)) (argument : Bytes) :
    r.readPlain argument ≠ .ok s := by
  simp only [readPlain]
  rintro ⟨⟩

lemma readAll_of_awaited (h : r.waiting = none) (value : Bytes) (rest : List Bytes) :
    readAll { r with waiting := some (flag, some value) } rest = .ok s ↔
      r.record flag (some value) >>= (readAll · rest) = .ok s := by
  rw [bind_eq_ok]
  by_cases hrest : ∀ a, rest.head? = some a → ¬IsValue a
  · rw [← settle_of_value h]
    exact settlesFirst_readAll hrest _ _
  · -- Neither an option with its value nor what is left behind it takes one more.
    simp only [not_forall, not_not] at hrest
    obtain ⟨a, ha, hv⟩ := hrest
    obtain ⟨later, rfl⟩ := List.head?_eq_some_iff.1 ha
    simp only [readAll_of_value hv, bind_eq_ok]
    constructor
    · rintro ⟨r₁, hr, -⟩
      exact absurd hr (readPlain_ne_ok (by simp) a)
    · rintro ⟨r₁, hr, r₂, hr₂, -⟩
      refine absurd hr₂ (readPlain_ne_ok ?_ a)
      simp [(waiting_of_record hr).trans h]

lemma readAll_of_awaiting {value : Bytes} (hv : IsValue value) (h : r.waiting = none)
    (rest : List Bytes) :
    readAll { r with waiting := some (flag, none) } (value :: rest) = .ok s ↔
      r.record flag (some value) >>= (readAll · rest) = .ok s := by
  rw [readAll_of_value hv]
  exact readAll_of_awaited h value rest

lemma value_of_readAll {argv : List Bytes} (hf : flag.takesValue)
    (hs : readAll { r with waiting := some (flag, none) } argv = .ok s) :
    ∃ value rest, argv = value :: rest ∧ IsValue value := by
  by_contra hno
  have hsettle := settle_of_awaiting (r := { r with waiting := some (flag, none) }) hf rfl
  have hargv : ∀ a, argv.head? = some a → ¬IsValue a := by
    intro a ha hv
    obtain ⟨rest, rfl⟩ := List.head?_eq_some_iff.1 ha
    exact hno ⟨a, rest, rfl, hv⟩
  obtain ⟨r₁, hr, -⟩ := (settlesFirst_readAll hargv _ _).1 hs
  cases hsettle.symm.trans hr

/-! ### What is written is recorded -/

lemma ofArgument_cluster {n : Nat} {rest : Bytes}
    (h : List.replicate n verboseLetter ++ rest ≠ [])
    (hd : (List.replicate n verboseLetter ++ rest).head? ≠ some dash) :
    ofArgument (cluster n rest) = .letters (List.replicate n verboseLetter ++ rest) := by
  obtain ⟨b, t, hb⟩ := List.exists_cons_of_ne_nil h
  rw [hb, List.head?_cons, ne_eq, Option.some.injEq] at hd
  rw [cluster, hb, ofArgument, if_neg (by simp), if_pos hd]

lemma ofArgument_letters {n : Nat} (hn : n ≠ 0) :
    ofArgument (cluster n []) = .letters (List.replicate n verboseLetter ++ []) := by
  obtain ⟨n, rfl⟩ := Nat.exists_eq_succ_of_ne_zero hn
  exact ofArgument_cluster (by simp) (by simp [List.replicate_succ, verboseLetter, dash])

lemma ofArgument_commandLetter (n : Nat) (text : Bytes) :
    ofArgument (cluster n (commandLetter :: text)) =
      .letters (List.replicate n verboseLetter ++ commandLetter :: text) := by
  refine ofArgument_cluster (by simp) ?_
  cases n <;> simp [List.replicate_succ, verboseLetter, commandLetter, dash]

lemma readLong_long (r : Reading) (flag : Flag) (value : Option Bytes) :
    r.readLong (Utf8.encode flag.long) value =
      match flag.takesValue, value with
      | true, some value => r.take flag value
      | true, none => r.await flag
      | false, some value => .error (.usage (.unexpectedValue (Utf8.decodeLossy value) flag))
      | false, none => r.raise flag true := by
  have hflag : (Utf8.decode? (Utf8.encode flag.long)).bind Flag.ofLong? = some flag := by
    rw [Utf8.decode?_encode, Option.bind_some, ofLong?_long]
  cases value <;> cases htakes : flag.takesValue <;> simp only [readLong, hflag, htakes]

lemma takesValue_of_isSwitch (hf : flag.isSwitch) : flag.takesValue = false := by
  cases flag <;> first | rfl | cases hf

lemma readAll_cluster (h : r.waiting = none) {n : Nat} {letters : Bytes} {rest : List Bytes}
    (ha : ofArgument (cluster n letters) = .letters (List.replicate n verboseLetter ++ letters))
    {f : Reading → Except Halt Reading}
    (hf : ∀ r : Reading, r.waiting = none →
      (r.readLetters 0 letters >>= (readAll · rest) = .ok s ↔ f r = .ok s)) :
    r.readAll (cluster n letters :: rest) = .ok s ↔ r.recordAll (repeated n) >>= f = .ok s := by
  rw [readAll_cons, ha]
  simp only [readLetters_repeated h, bind_assoc]
  rw [bind_eq_ok, bind_eq_ok]
  refine exists_congr fun r₁ => and_congr_right fun hr => ?_
  exact hf r₁ ((waiting_of_recordAll hr).trans h)

lemma recordAll_singleton (r : Reading) (flag : Flag) (value : Bytes) :
    r.recordAll [(flag, value)] = r.record flag (some value) := bind_pure _

lemma readAll_append {line : List Bytes} {options : Given} (hw : Writes line options)
    (h : r.waiting = none) (rest : List Bytes) :
    r.readAll (line ++ rest) = .ok s ↔ r.recordAll options >>= (readAll · rest) = .ok s := by
  cases hw with
  | attached hf value =>
    simp only [List.singleton_append, readAll_cons, ofArgument_attached, readLong_long, hf,
      take_of_idle h, recordAll_singleton]
  | separate hf hv =>
    rw [List.cons_append, List.singleton_append, readAll_cons, ofArgument_dashed]
    simp only [readLong_long, hf, await_of_idle h, recordAll_singleton]
    exact readAll_of_awaiting hv h rest
  | switch hf =>
    simp only [List.singleton_append, readAll_cons, ofArgument_dashed, readLong_long,
      takesValue_of_isSwitch hf, raise_of_idle h hf, recordAll_singleton]
  | letters hn => exact readAll_cluster h (ofArgument_letters hn) fun r _ => Iff.rfl
  | lettersAttached n ht =>
    rw [recordAll_append, bind_assoc]
    refine readAll_cluster h (ofArgument_commandLetter n _) fun r hr => ?_
    rw [readLetters_command, if_neg ht, take_of_idle hr, recordAll_singleton]
    rfl
  | lettersSeparate n hv =>
    rw [recordAll_append, bind_assoc]
    refine readAll_cluster h (ofArgument_commandLetter n _) fun r hr => ?_
    rw [readLetters_command, if_pos rfl, await_of_idle hr, recordAll_singleton]
    exact readAll_of_awaiting hv hr rest

/-! ### Reading is recording what the line spells -/

lemma readAll_of_spells {argv : List Bytes} {given : Given} (hs : Spells argv given)
    (h : r.waiting = none) : r.readAll argv = .ok s ↔ r.recordAll given = .ok s := by
  induction hs generalizing r with
  | nil =>
    rw [readAll, settle_of_idle h]
    rfl
  | separator =>
    rw [show r.readAll [Utf8.encode "--"] = r.settle from rfl, settle_of_idle h]
    rfl
  | append hw hs ih =>
    rw [readAll_append hw h, recordAll_append, bind_eq_ok, bind_eq_ok]
    refine exists_congr fun r₁ => and_congr_right fun hr => ?_
    exact ih ((waiting_of_recordAll hr).trans h)

lemma encode_dashed (flag : Flag) :
    Utf8.encode flag.dashed = dash :: dash :: Utf8.encode flag.long := by
  rw [Flag.dashed, Utf8.encode_append]
  rfl

lemma flag_of_readLong {name : Bytes} {value : Option Bytes} (hs : r.readLong name value = .ok s) :
    ∃ flag : Flag, name = Utf8.encode flag.long := by
  rw [readLong] at hs
  split at hs
  · cases hs
  next flag hflag =>
    obtain ⟨text, ht, hl⟩ := Option.bind_eq_some_iff.1 hflag
    exact ⟨flag, by rw [long_of_ofLong? hl, Utf8.encode_of_decode? ht]⟩

def Begins (argv : List Bytes) : Prop :=
  ∃ line options later, argv = line ++ later ∧ line ≠ [] ∧ Writes line options

lemma begins_of_writes {argument : Bytes} {options : Given} (hw : Writes [argument] options)
    (rest : List Bytes) : Begins (argument :: rest) :=
  ⟨[argument], options, rest, rfl, by simp, hw⟩

lemma begins_of_readLong {name : Bytes} {value : Option Bytes} {rest : List Bytes}
    (h : r.waiting = none) (hs : r.readLong name value >>= (readAll · rest) = .ok s) :
    Begins ((match value with
      | none => dash :: dash :: name
      | some value => dash :: dash :: (name ++ equals :: value)) :: rest) := by
  obtain ⟨r₁, hr, hs⟩ := bind_eq_ok.1 hs
  obtain ⟨flag, rfl⟩ := flag_of_readLong hr
  rw [readLong_long] at hr
  cases hf : flag.takesValue <;> cases value <;> simp only [hf] at hr ⊢
  case true.some value =>
    have hw := Writes.attached hf value
    rw [encode_dashed_equals] at hw
    exact begins_of_writes (by simpa using hw) rest
  case true.none =>
    rw [await_of_idle h] at hr
    cases hr
    obtain ⟨value, later, rfl, hv⟩ := value_of_readAll hf hs
    rw [← encode_dashed]
    exact ⟨[_, value], _, later, rfl, by simp, .separate hf hv⟩
  case false.none =>
    rw [← encode_dashed]
    refine begins_of_writes (.switch ?_) rest
    rw [raise, settle_of_idle h] at hr
    cases flag with
    | help | version => cases hr
    | dryRun | verbose => rfl
    | _ => cases hf
  case false.some => cases hr

lemma begins_of_readLetters {bs : Bytes} {rest : List Bytes} (hne : bs ≠ [])
    (h : r.waiting = none) (hs : r.readLetters 0 bs >>= (readAll · rest) = .ok s) :
    Begins ((dash :: bs) :: rest) := by
  obtain ⟨r₁, hr, hs⟩ := bind_eq_ok.1 hs
  obtain ⟨n, letters, rfl, hletters⟩ := letters_of_readLetters h hr
  rw [readLetters_repeated h] at hr
  obtain ⟨r₂, hr₂, hr⟩ := bind_eq_ok.1 hr
  rcases hletters with rfl | ⟨text, rfl⟩
  · refine begins_of_writes (.letters (n := n) ?_) rest
    rintro rfl
    exact hne rfl
  · by_cases htext : text = []
    · subst htext
      rw [readLetters_command, if_pos rfl, await_of_idle ((waiting_of_recordAll hr₂).trans h)] at hr
      cases hr
      obtain ⟨value, later, rfl, hv⟩ := value_of_readAll (by decide) hs
      exact ⟨[_, value], _, later, rfl, by simp, .lettersSeparate n hv⟩
    · exact begins_of_writes (.lettersAttached n htext) rest

lemma begins_of_readAll {argument : Bytes} {rest : List Bytes} (h : r.waiting = none)
    (hs : r.readAll (argument :: rest) = .ok s) :
    argument :: rest = [Utf8.encode "--"] ∨ Begins (argument :: rest) := by
  have hkind := ofArgument_cases argument
  rw [readAll_cons] at hs
  split at hs <;> rename_i ht <;> rw [ht] at hkind
  · cases rest with
    | nil => exact .inl (congrArg (· :: []) hkind)
    | cons next later => cases hs
  next name value =>
    have hb := begins_of_readLong h hs
    cases value <;> exact .inr (hkind ▸ hb)
  · obtain ⟨rfl, hne, -⟩ := hkind
    exact .inr (begins_of_readLetters hne h hs)
  · obtain ⟨r₁, hr, -⟩ := bind_eq_ok.1 hs
    exact absurd hr (readPlain_ne_ok (by simp [h]) argument)

lemma spells_of_readAll {r s : Reading} {argv : List Bytes} (h : r.waiting = none)
    (hs : r.readAll argv = .ok s) : ∃ given, Spells argv given := by
  -- What is left behind an option may be more than one argument shorter.
  induction hlength : argv.length using Nat.strong_induction_on generalizing r argv with
  | _ n ih =>
    subst hlength
    cases argv with
    | nil => exact ⟨[], .nil⟩
    | cons argument rest =>
      rcases begins_of_readAll h hs with hsep | ⟨line, options, later, he, hne, hw⟩
      · rw [hsep]
        exact ⟨[], .separator⟩
      · rw [he] at hs ih ⊢
        obtain ⟨r₁, hr, hlater⟩ := bind_eq_ok.1 ((readAll_append hw h later).1 hs)
        have hshort : later.length < (line ++ later).length := by
          rw [List.length_append]
          exact Nat.lt_add_of_pos_left (List.length_pos_iff.2 hne)
        obtain ⟨given, hspells⟩ := ih _ hshort ((waiting_of_recordAll hr).trans h) hlater rfl
        exact ⟨options ++ given, .append hw hspells⟩

end Reading

end Arguments

end RemoteBatch.Settings
