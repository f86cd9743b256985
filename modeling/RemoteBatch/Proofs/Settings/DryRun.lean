import RemoteBatch.Proofs.Settings.Options
import RemoteBatch.Proofs.Settings.WellFormed

/-! A line with the option for a dry run and the same line without it: both are read alike, and
configure the same but for that. -/

namespace RemoteBatch.Settings

namespace Arguments

def dryRunArgument : Bytes := Utf8.encode Flag.dryRun.dashed

variable {argv line : List Bytes} {given options : Given}

lemma ofArgument_dryRun :
    Token.ofArgument dryRunArgument = .long (Utf8.encode Flag.dryRun.long) none :=
  ofArgument_dashed .dryRun

lemma ne_dryRun (argument : Bytes)
    (h : Token.ofArgument argument ≠ .long (Utf8.encode Flag.dryRun.long) none) :
    dryRunArgument ≠ argument := by
  rintro rfl
  exact h ofArgument_dryRun

lemma ne_dryRun_of_dashed {flag : Flag} (h : flag ≠ .dryRun) :
    dryRunArgument ≠ Utf8.encode flag.dashed := by
  apply ne_dryRun _
  rw [ofArgument_dashed, ne_eq, Token.long.injEq, not_and_or]
  refine .inl fun he => h ?_
  have hl := ofLong?_long flag
  rw [Utf8.encode_inj he, ofLong?_long] at hl
  exact (Option.some.inj hl).symm

lemma ne_dryRun_of_value {value : Bytes} (h : IsValue value) : dryRunArgument ≠ value :=
  ne_dryRun _ (by simp [ofArgument_value h])

lemma ne_dryRun_of_command (n : Nat) (text : Bytes) :
    dryRunArgument ≠ cluster n (commandLetter :: text) :=
  ne_dryRun _ (by simp [Reading.ofArgument_commandLetter])

lemma ne_dryRun_of_repeated {n : Nat} : ∀ p ∈ repeated n, p.1 ≠ .dryRun := by
  intro p hp
  rw [List.eq_of_mem_replicate hp]
  decide

lemma ne_dryRun_of_repeated_command {n : Nat} {value : Bytes} :
    ∀ p ∈ repeated n ++ [(.command, value)], p.1 ≠ .dryRun := by
  rw [List.forall_mem_append]
  exact ⟨ne_dryRun_of_repeated, by simp⟩

lemma dryRun_of_writes (hw : Writes line options) :
    (line = [dryRunArgument] ∧ options = [(.dryRun, [])]) ∨
      dryRunArgument ∉ line ∧ ∀ p ∈ options, p.1 ≠ .dryRun := by
  cases hw with
  | @attached flag hf value =>
    have hflag : flag ≠ .dryRun := by
      rintro rfl
      cases hf
    have hne := ne_dryRun (Utf8.encode (flag.dashed ++ "=") ++ value)
      (by simp [ofArgument_attached])
    exact .inr ⟨by simpa using hne, by simpa using hflag⟩
  | @separate flag hf value hv =>
    have hflag : flag ≠ .dryRun := by
      rintro rfl
      cases hf
    exact .inr ⟨by simp [ne_dryRun_of_dashed hflag, ne_dryRun_of_value hv], by simpa using hflag⟩
  | @switch flag hf =>
    by_cases h : flag = .dryRun
    · subst h
      exact .inl ⟨rfl, rfl⟩
    · exact .inr ⟨by simp [ne_dryRun_of_dashed h], by simpa using h⟩
  | @letters n hn =>
    have hne := ne_dryRun (cluster n []) (by simp [Reading.ofArgument_letters hn])
    exact .inr ⟨by simpa using hne, ne_dryRun_of_repeated⟩
  | lettersAttached n ht =>
    exact .inr ⟨by simp [ne_dryRun_of_command], ne_dryRun_of_repeated_command⟩
  | lettersSeparate n hv =>
    exact .inr ⟨by simp [ne_dryRun_of_command, ne_dryRun_of_value hv],
      ne_dryRun_of_repeated_command⟩

lemma mem_of_spells (hs : Spells argv given) (h : dryRunArgument ∈ argv) :
    .dryRun ∈ given.map Prod.fst := by
  induction hs with
  | nil => cases h
  | separator =>
    rw [List.mem_singleton] at h
    exact absurd h (by decide)
  | append hw hs ih =>
    rw [List.map_append, List.mem_append]
    rcases List.mem_append.1 h with h | h
    · rcases dryRun_of_writes hw with ⟨-, rfl⟩ | ⟨hno, -⟩
      · exact .inl (by simp)
      · exact absurd h hno
    · exact .inr (ih h)

lemma spells_filter (hs : Spells argv given) :
    Spells (argv.filter (· ≠ dryRunArgument)) (given.filter (·.1 ≠ .dryRun)) := by
  induction hs with
  | nil => exact .nil
  | separator => exact .separator
  | @append line rest options given hw hs ih =>
    rw [List.filter_append, List.filter_append]
    rcases dryRun_of_writes hw with ⟨rfl, rfl⟩ | ⟨hline, hoptions⟩
    · simpa using ih
    · have hl : line.filter (· ≠ dryRunArgument) = line := by
        rw [List.filter_eq_self]
        intro argument ha
        rw [decide_eq_true_eq]
        rintro rfl
        exact hline ha
      have ho : options.filter (·.1 ≠ .dryRun) = options := by
        rw [List.filter_eq_self]
        exact fun p hp => decide_eq_true (hoptions p hp)
      rw [hl, ho]
      exact .append hw ih

def real (a : Arguments) : Arguments := { a with dryRun := false }

lemma put_real {a b : Arguments} {flag : Flag} {raw : Bytes} (hf : flag ≠ .dryRun)
    (h : a.put flag raw = .ok b) : a.real.put flag raw = .ok b.real := by
  cases flag with
  | dryRun => exact absurd rfl hf
  | verbose | help | version =>
    cases h
    rfl
  | _ =>
    obtain ⟨v, hv, h⟩ := bind_eq_ok.1 h
    cases h
    exact bind_eq_ok.2 ⟨v, hv, rfl⟩

namespace Reading

variable {r s : Reading}

def real (r : Reading) : Reading :=
  { r with arguments := r.arguments.real, given := r.given.filter (· ≠ .dryRun) }

lemma record_real {flag : Flag} {raw : Bytes} (hf : flag ≠ .dryRun)
    (h : r.record flag (some raw) = .ok s) : r.real.record flag (some raw) = .ok s.real := by
  obtain ⟨hrepeated, a, ha, rfl⟩ := record_eq_ok_iff.1 h
  have hrepeated' : flag ∈ r.real.given → flag.isRepeatable :=
    fun hm => hrepeated (List.mem_filter.1 hm).1
  refine record_eq_ok_iff.2 ⟨hrepeated', a.real, put_real hf ha, ?_⟩
  simp [real, hf]

lemma record_dryRun {raw : Bytes} (h : r.record .dryRun (some raw) = .ok s) : s.real = r.real := by
  obtain ⟨-, a, ha, rfl⟩ := record_eq_ok_iff.1 h
  cases ha
  simp [real, Arguments.real]

lemma recordAll_real (h : r.recordAll given = .ok s) :
    r.real.recordAll (given.filter (·.1 ≠ .dryRun)) = .ok s.real := by
  induction given generalizing r with
  | nil =>
    cases h
    rfl
  | cons first given ih =>
    obtain ⟨flag, raw⟩ := first
    obtain ⟨r₁, h₁, hrest⟩ := bind_eq_ok.1 h
    by_cases hf : flag = .dryRun
    · subst hf
      rw [List.filter_cons_of_neg (by simp), ← record_dryRun h₁]
      exact ih hrest
    · rw [List.filter_cons_of_pos (by simpa using hf), recordAll_cons]
      exact bind_eq_ok.2 ⟨r₁.real, record_real hf h₁, ih hrest⟩

lemma conflict?_real (r : Reading) : r.real.conflict? = r.conflict? := by
  have hgiven : r.real.given.filter (fun f => f = .command || f = .commandsFile) =
      r.given.filter fun f => f = .command || f = .commandsFile := by
    rw [real, List.filter_filter]
    apply List.filter_congr
    intro flag _
    cases flag <;> rfl
  rw [conflict?, hgiven, conflict?]

end Reading

lemma substitutes_filter (env : Environment) (given flags : List Flag) :
    (substitutes env given flags).filter (·.1 ≠ .dryRun) =
      substitutes env (given.filter (· ≠ .dryRun)) flags := by
  induction flags with
  | nil => rfl
  | cons flag flags ih =>
    rw [substitutes_cons, substitutes_cons, List.filter_append, ih]
    congr 1
    by_cases hf : flag = .dryRun
    · subst hf
      have hnone : substitute? env .dryRun = none := rfl
      simp [hnone]
    · cases hv : substitute? env flag <;> by_cases hg : flag ∈ given <;> simp [hf, hg]

lemma parse_real (hs : Spells argv given) {env : Environment} {a : Arguments}
    (h : parse argv env = .ok a) :
    parse (argv.filter (· ≠ dryRunArgument)) env = .ok a.real := by
  obtain ⟨r, hr, hc, rfl⟩ := (parse_iff hs).1 h
  refine (parse_iff (spells_filter hs)).2 ⟨r.real, ?_, (Reading.conflict?_real r).trans hc, rfl⟩
  have hreal := Reading.recordAll_real hr
  rw [List.filter_append, substitutes_filter, List.filter_map] at hreal
  exact hreal

lemma dryRun_of_parse {env : Environment} {a : Arguments} (h : parse argv env = .ok a)
    (hargv : dryRunArgument ∈ argv) : a.dryRun := by
  obtain ⟨given, hs⟩ := spells_of_parse h
  have hgiven := mem_of_spells hs hargv
  have hfield := Place.dryRun.field_of_parse hs h
  by_contra hno
  have hfalse : Place.dryRun.field a = none := if_neg hno
  rw [hfalse, Option.map_none, Option.map_eq_none_iff, option, Option.or_eq_none_iff] at hfield
  exact lookup_eq_none_iff.1 hfield.1 hgiven

end Arguments

namespace Configuration

lemma ofArguments_real {t : FileTree} {a : Arguments} {c c' : Configuration}
    (h : ofArguments t a = .ok c) (h' : ofArguments t a.real = .ok c') :
    c' = { c with dryRun := false } := by
  obtain ⟨file, commands, hfile, hcommands, hm⟩ := ofArguments_eq_ok_iff.1 h
  obtain ⟨file', commands', hfile', hcommands', hm'⟩ := ofArguments_eq_ok_iff.1 h'
  cases hfile.symm.trans hfile'
  cases hcommands.symm.trans hcommands'
  obtain ⟨-, -, rfl⟩ := merge_eq_ok_iff.1 hm
  obtain ⟨-, -, rfl⟩ := merge_eq_ok_iff.1 hm'
  rfl

end Configuration

end RemoteBatch.Settings
