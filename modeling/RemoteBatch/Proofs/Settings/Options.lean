import RemoteBatch.Proofs.Settings.Spelling

/-! What becomes of an option that can be given once: its value is read from where it is given on
the line, or else from its variable, and no other option touches it. -/

namespace RemoteBatch.Settings.Arguments

def substitute? (env : Environment) (flag : Flag) : Option Bytes :=
  flag.envName?.bind (List.lookup · env)

def option (given : Given) (env : Environment) (flag : Flag) : Option Bytes :=
  (given.lookup flag).or (substitute? env flag)

def substitutes (env : Environment) (given flags : List Flag) : Given :=
  flags.filterMap fun flag =>
    if flag ∈ given then none else (substitute? env flag).map (flag, ·)

lemma substitutes_cons (env : Environment) (given : List Flag) (flag : Flag) (flags : List Flag) :
    substitutes env given (flag :: flags) =
      (if flag ∈ given then none else (substitute? env flag).map (flag, ·)).toList ++
        substitutes env given flags := by
  rw [substitutes, List.filterMap_cons]
  split <;> rename_i h <;> rw [h] <;> rfl

lemma substitutes_concat {flag : Flag} {flags : List Flag} (h : flag ∉ flags) (env : Environment)
    (given : List Flag) :
    substitutes env (given ++ [flag]) flags = substitutes env given flags := by
  induction flags with
  | nil => rfl
  | cons first flags ih =>
    rw [List.mem_cons, not_or] at h
    simp [substitutes_cons, ih h.2, Ne.symm h.1]

lemma lookup_substitutes (env : Environment) (given flags : List Flag) (flag : Flag) :
    (substitutes env given flags).lookup flag =
      if flag ∈ flags ∧ flag ∉ given then substitute? env flag else none := by
  induction flags with
  | nil => simp [substitutes]
  | cons first flags ih =>
    rw [substitutes_cons, List.lookup_append, ih]
    by_cases hf : flag = first
    · subst hf
      by_cases hg : flag ∈ given
      · simp [hg]
      · cases substitute? env flag <;> simp [hg]
    · by_cases hg : first ∈ given
      · simp [hg, hf]
      · cases substitute? env first <;> simp [hg, hf, List.lookup_cons, beq_false_of_ne hf]

lemma lookup_eq_none_iff {given : Given} {flag : Flag} :
    given.lookup flag = none ↔ flag ∉ given.map Prod.fst := by
  simp only [List.lookup_eq_none_iff, bne_iff_ne, List.mem_map, not_exists, not_and]
  exact forall₂_congr fun _ _ => ne_comm

lemma lookup_append_substitutes (given : Given) (env : Environment) (flag : Flag) :
    (given ++ substitutes env (given.map Prod.fst) Flag.all).lookup flag =
      option given env flag := by
  have hall : flag ∈ Flag.all := by cases flag <;> decide
  rw [List.lookup_append, lookup_substitutes, option]
  cases hl : given.lookup flag with
  | some raw => rfl
  | none =>
    rw [if_pos ⟨hall, lookup_eq_none_iff.1 hl⟩]

namespace Reading

variable {r s : Reading} {flag : Flag}

lemma record_eq_ok_iff {raw : Bytes} :
    r.record flag (some raw) = .ok s ↔
      (flag ∈ r.given → flag.isRepeatable) ∧
        ∃ a, r.arguments.put flag raw = .ok a ∧
          s = { r with arguments := a, given := r.given ++ [flag] } := by
  rw [record, if_neg (by simp)]
  split
  next hrepeated =>
    constructor
    · rintro ⟨⟩
    · exact fun h => absurd (h.1 hrepeated.1) hrepeated.2
  next hrepeated =>
    simp only [bind_eq_ok, mapError_eq_ok, Option.getD_some, Except.ok.injEq, eq_comm (b := s)]
    refine (and_iff_right fun hm => ?_).symm
    by_contra hno
    exact hrepeated ⟨hm, hno⟩

lemma given_of_recordAll {given : Given} (h : r.recordAll given = .ok s) :
    s.given = r.given ++ given.map Prod.fst := by
  induction given generalizing r with
  | nil =>
    cases h
    simp
  | cons p given ih =>
    obtain ⟨r₁, h₁, h⟩ := bind_eq_ok.1 h
    obtain ⟨-, a, -, rfl⟩ := record_eq_ok_iff.1 h₁
    simp [ih h]

lemma fallBack_of_notMem (h : flag ∉ r.given) (env : Environment) :
    fallBack env r flag = (substitute? env flag).elim (.ok r) (r.record flag <| some ·) := by
  rw [fallBack, if_neg h]
  cases hv : substitute? env flag <;> rw [substitute?] at hv <;> rw [hv] <;> rfl

lemma foldlM_fallBack (env : Environment) {flags : List Flag} (h : flags.Nodup) (r : Reading) :
    flags.foldlM (fallBack env) r = r.recordAll (substitutes env r.given flags) := by
  induction flags generalizing r with
  | nil => rfl
  | cons flag flags ih =>
    obtain ⟨hflag, hflags⟩ := List.nodup_cons.1 h
    rw [List.foldlM_cons, substitutes_cons]
    by_cases hm : flag ∈ r.given
    · rw [fallBack, if_pos hm, if_pos hm]
      exact ih hflags r
    · rw [fallBack_of_notMem hm, if_neg hm]
      cases hv : substitute? env flag with
      | none => exact ih hflags r
      | some value =>
        change r.record flag (some value) >>= _ = r.record flag (some value) >>= _
        cases hr : r.record flag (some value) with
        | error halt => rfl
        | ok r₁ =>
          obtain ⟨-, a, -, rfl⟩ := record_eq_ok_iff.1 hr
          have hrest := ih hflags { r with arguments := a, given := r.given ++ [flag] }
          rwa [substitutes_concat hflag] at hrest

end Reading

lemma parse_iff {argv : List Bytes} {given : Given} (hs : Spells argv given) {env : Environment}
    {a : Arguments} :
    parse argv env = .ok a ↔
      ∃ r, Reading.recordAll {} (given ++ substitutes env (given.map Prod.fst) Flag.all) = .ok r ∧
        r.conflict? = none ∧ r.arguments = a := by
  simp only [parse, bind_eq_ok, Reading.recordAll_append]
  constructor
  · rintro ⟨r, hr, r', hr', h⟩
    rw [Reading.readAll_of_spells hs rfl] at hr
    rw [Reading.foldlM_fallBack env (by decide), Reading.given_of_recordAll hr] at hr'
    split at h
    next => cases h
    next hc =>
      cases h
      exact ⟨r', ⟨r, hr, hr'⟩, hc, rfl⟩
  · rintro ⟨r', ⟨r, hr, hr'⟩, hc, rfl⟩
    refine ⟨r, (Reading.readAll_of_spells hs rfl).2 hr, r', ?_, by rw [hc]⟩
    rw [Reading.foldlM_fallBack env (by decide), Reading.given_of_recordAll hr]
    exact hr'

lemma spells_of_parse {argv : List Bytes} {env : Environment} {a : Arguments}
    (h : parse argv env = .ok a) : ∃ given, Spells argv given := by
  obtain ⟨r, hr, -⟩ := bind_eq_ok.1 h
  exact Reading.spells_of_readAll rfl hr

variable {a b : Arguments} {flag : Flag} {raw : Bytes}

lemma encode_of_readText {text : String} (h : readText raw = .ok text) :
    Utf8.encode text = raw := by
  rw [readText] at h
  split at h
  next hs =>
    cases h
    exact Utf8.encode_of_decode? hs
  next => cases h

lemma eq_of_readPath {path : Path} (h : readPath flag raw = .ok path) : path = raw := by
  rw [readPath] at h
  split at h
  next => cases h
  next =>
    cases h
    rfl

structure AgreeBut (flag : Flag) (a b : Arguments) : Prop where
  host : flag ≠ .host → b.host = a.host
  port : flag ≠ .port → b.port = a.port
  user : flag ≠ .user → b.user = a.user
  password : flag ≠ .password → b.password = a.password
  timeout : flag ≠ .timeout → b.timeout = a.timeout
  commandTimeout : flag ≠ .commandTimeout → b.commandTimeout = a.commandTimeout
  config : flag ≠ .config → b.config = a.config
  dryRun : flag ≠ .dryRun → b.dryRun = a.dryRun

lemma agreeBut_of_put (h : a.put flag raw = .ok b) : AgreeBut flag a b := by
  cases flag with
  | dryRun | verbose | help | version =>
    cases h
    constructor <;> intro hf <;> first | rfl | exact absurd rfl hf
  | _ =>
    obtain ⟨v, -, h⟩ := bind_eq_ok.1 h
    cases h
    constructor <;> intro hf <;> first | rfl | exact absurd rfl hf

structure Place (α : Type) where
  flag : Flag
  read : Bytes → Except UsageError α
  set : Arguments → α → Arguments
  field : Arguments → Option α
  single : flag.isRepeatable = false := by rfl
  start : field {} = none := by rfl
  field_set : ∀ a v, field (set a v) = some v := by intro _ _; rfl
  own : ∀ a raw, put a flag raw = read raw >>= fun v => .ok (set a v) := by intro _ _; rfl
  other : ∀ {f a b}, AgreeBut f a b → f ≠ flag → field b = field a

namespace Place

variable {α : Type} (p : Place α) {r s : Reading} {given : Given}

lemma field_of_record (h : r.record flag (some raw) = .ok s) :
    if flag = p.flag then ∃ v, p.read raw = .ok v ∧ p.field s.arguments = some v
    else p.field s.arguments = p.field r.arguments := by
  obtain ⟨-, a, ha, rfl⟩ := Reading.record_eq_ok_iff.1 h
  split
  next hf =>
    subst hf
    rw [p.own] at ha
    obtain ⟨v, hv, ha⟩ := bind_eq_ok.1 ha
    cases ha
    exact ⟨v, hv, p.field_set _ v⟩
  next hf => exact p.other (agreeBut_of_put ha) hf

lemma notMem_of_recordAll (hg : p.flag ∈ r.given) (h : r.recordAll given = .ok s) :
    p.flag ∉ given.map Prod.fst := by
  induction given generalizing r with
  | nil => simp
  | cons first given ih =>
    obtain ⟨r₁, h₁, h⟩ := bind_eq_ok.1 h
    obtain ⟨hrepeated, a, -, rfl⟩ := Reading.record_eq_ok_iff.1 h₁
    have hne : p.flag ≠ first.1 := by
      intro he
      have hr := hrepeated (he ▸ hg)
      rw [← he, p.single] at hr
      cases hr
    rw [List.map_cons, List.mem_cons, not_or]
    exact ⟨hne, ih (by simp [hg]) h⟩

lemma field_of_notMem (hg : p.flag ∉ given.map Prod.fst) (h : r.recordAll given = .ok s) :
    p.field s.arguments = p.field r.arguments := by
  induction given generalizing r with
  | nil =>
    cases h
    rfl
  | cons first given ih =>
    rw [List.map_cons, List.mem_cons, not_or] at hg
    obtain ⟨r₁, h₁, h⟩ := bind_eq_ok.1 h
    have hfirst := p.field_of_record h₁
    rw [if_neg (Ne.symm hg.1)] at hfirst
    exact (ih hg.2 h).trans hfirst

lemma field_of_recordAll (h : r.recordAll given = .ok s) :
    match given.lookup p.flag with
    | some raw => ∃ v, p.read raw = .ok v ∧ p.field s.arguments = some v
    | none => p.field s.arguments = p.field r.arguments := by
  induction given generalizing r with
  | nil => exact p.field_of_notMem (by simp) h
  | cons first given ih =>
    obtain ⟨flag, raw⟩ := first
    obtain ⟨r₁, h₁, hrest⟩ := bind_eq_ok.1 h
    have hfirst := p.field_of_record h₁
    by_cases hf : flag = p.flag
    · subst hf
      rw [if_pos rfl] at hfirst
      have hg : p.flag ∈ r₁.given := by
        obtain ⟨-, a, -, rfl⟩ := Reading.record_eq_ok_iff.1 h₁
        simp
      rw [List.lookup_cons_self, p.field_of_notMem (p.notMem_of_recordAll hg hrest) hrest]
      exact hfirst
    · rw [if_neg hf] at hfirst
      rw [List.lookup_cons, beq_false_of_ne (Ne.symm hf), ← hfirst]
      exact ih hrest

lemma field_of_parse {argv : List Bytes} (hs : Spells argv given) {env : Environment}
    (h : parse argv env = .ok a) :
    (option given env p.flag).map p.read = (p.field a).map .ok := by
  obtain ⟨r, hr, -, rfl⟩ := (parse_iff hs).1 h
  have hfield := p.field_of_recordAll hr
  rw [lookup_append_substitutes, p.start] at hfield
  split at hfield
  next raw ho =>
    obtain ⟨v, hv, hf⟩ := hfield
    rw [ho, hf, Option.map_some, Option.map_some, hv]
  next ho =>
    rw [ho, hfield]
    rfl

def host : Place String where
  flag := .host
  read := readText
  set a v := { a with host := some v }
  field := Arguments.host
  other h := h.host

def port : Place Nat where
  flag := .port
  read := readPort .port
  set a v := { a with port := some v }
  field := Arguments.port
  other h := h.port

def user : Place String where
  flag := .user
  read := readText
  set a v := { a with user := some v }
  field := Arguments.user
  other h := h.user

def password : Place String where
  flag := .password
  read := readText
  set a v := { a with password := some v }
  field := Arguments.password
  other h := h.password

def timeout : Place Nat where
  flag := .timeout
  read := readSeconds .timeout
  set a v := { a with timeout := some v }
  field := Arguments.timeout
  other h := h.timeout

def commandTimeout : Place Nat where
  flag := .commandTimeout
  read := readSeconds .commandTimeout
  set a v := { a with commandTimeout := some v }
  field := Arguments.commandTimeout
  other h := h.commandTimeout

def config : Place Path where
  flag := .config
  read := readPath .config
  set a v := { a with config := some v }
  field := Arguments.config
  other h := h.config

def dryRun : Place Unit where
  flag := .dryRun
  read _ := .ok ()
  set a _ := { a with dryRun := true }
  field a := if a.dryRun then some () else none
  other h hf := by rw [h.dryRun hf]

end Place

end RemoteBatch.Settings.Arguments
