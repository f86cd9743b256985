import Mathlib.Data.List.Basic
import Mathlib.Data.List.Flatten
import RemoteBatch.Proofs.Program.ExitCode
import RemoteBatch.Proofs.Run.ErrorLines
import RemoteBatch.Proofs.Settings.Verbosity
import RemoteBatch.Proofs.Text.Lines

/-! Verbosity. A program that is asked to tell more does the same and tells more: what it was to log
is there in the same order, and what is no log entry stays as it is. -/

namespace RemoteBatch

def LogFilter.Within (f g : LogFilter) : Prop := ∀ e, f.shows e → g.shows e

def Diagnostic.isLog : Diagnostic → Bool
  | log _ => true
  | bytes _ => false

namespace Finish

def errorLines (f : Finish) : List Bytes :=
  Text.splitAfter Run.newline (f.diagnostics.flatMap Diagnostic.text)

structure TellsMore (f f' : Finish) : Prop where
  code : f'.code = f.code
  stdout : f'.stdout = f.stdout
  client : f'.client = f.client
  diagnostics : f.diagnostics.Sublist f'.diagnostics
  bytes : f'.diagnostics.filter (!·.isLog) = f.diagnostics.filter (!·.isLog)
  lines : f.errorLines.Sublist f'.errorLines

def WholeLines (f : Finish) : Prop := ∀ d ∈ f.diagnostics, Run.EndsLine d.text

end Finish

namespace Program

open Run Settings Arguments

variable {m : Machine} {argv : List Bytes} {f g : LogFilter}

lemma shows_upTo (l : Level) (e : LogEntry) :
    (LogFilter.upTo l).shows e = decide (e.level.rank ≤ l.rank) := by
  have hstart (t : Topic) : "".isPrefixOf t.path := by
    cases t <;> decide +kernel
  simp [LogFilter.shows, LogFilter.deciding?, LogFilter.upTo, LogDirective.concerns, hstart]

lemma levelFor_of_two_le {n : Nat} (h : 2 ≤ n) : levelFor n = .debug := by
  match n with
  | n + 2 => rfl

lemma logFilter_raised {n : Nat} (env : Environment) (h : 2 ≤ n) :
    logFilter env (min maxVerbosity (n + 1)) = logFilter env n := by
  have hraised : 2 ≤ min maxVerbosity (n + 1) := by
    rw [maxVerbosity]
    omega
  rw [logFilter, levelFor_of_two_le hraised, logFilter, levelFor_of_two_le h]

lemma logFilter_within (env : Environment) (n : Nat) :
    (logFilter env n).Within (logFilter env (min maxVerbosity (n + 1))) := by
  intro e he
  by_cases htwo : 2 ≤ n
  · rw [logFilter_raised env htwo]
    exact he
  · have hrank : (levelFor n).rank ≤ (levelFor (min maxVerbosity (n + 1))).rank := by
      obtain rfl | rfl : n = 0 ∨ n = 1 := by omega
      · decide
      · decide
    simp only [logFilter] at he ⊢
    generalize ((env.lookup "RUST_LOG").bind Utf8.decode?).bind LogFilter.ofText? = found at he ⊢
    cases found with
    | some f => exact he
    | none =>
      simp only [Option.getD_none, shows_upTo, decide_eq_true_eq] at he ⊢
      exact he.trans hrank

lemma errorLines_eq {r : Finish} (h : r.WholeLines) :
    r.errorLines = r.diagnostics.flatMap fun d => Text.splitAfter newline d.text := by
  have hpieces : ∀ p ∈ r.diagnostics.map Diagnostic.text, p.getLast? = some newline := by
    rintro p hp
    obtain ⟨d, hd, rfl⟩ := List.mem_map.1 hp
    exact h d hd
  rw [Finish.errorLines, List.flatMap_def, Text.splitAfter_flatten newline hpieces,
    List.flatMap_map]

lemma wholeLines_filtered {r : Finish} (h : r.WholeLines) (f : LogFilter) :
    (Finish.filtered f r).WholeLines :=
  fun d hd => h d (List.mem_filter.1 hd).1

lemma tellsMore_filtered {r : Finish} (hr : r.WholeLines) (h : f.Within g) :
    Finish.TellsMore (Finish.filtered f r) (Finish.filtered g r) := by
  have hdiagnostics :
      (Finish.filtered f r).diagnostics.Sublist (Finish.filtered g r).diagnostics := by
    apply List.monotone_filter_right
    rintro (e | bs) hd
    · exact h e hd
    · exact hd
  refine ⟨rfl, rfl, rfl, hdiagnostics, ?_, ?_⟩
  · simp only [Finish.filtered, List.filter_filter]
    congr 1
    funext d
    cases d <;> rfl
  · rw [errorLines_eq (wholeLines_filtered hr f), errorLines_eq (wholeLines_filtered hr g)]
    exact hdiagnostics.flatMap _

lemma tellsMore_refl (r : Finish) : r.TellsMore r :=
  ⟨rfl, rfl, rfl, .refl _, rfl, .refl _⟩

lemma endsLine_log (e : LogEntry) : EndsLine (Diagnostic.log e).text := endsLine_encode _

lemma wholeLines_diagnostics {es : List Event} (h : Event.WholeLines es) :
    ∀ d ∈ diagnostics es, EndsLine d.text := by
  intro d hd
  obtain ⟨e, he, hd⟩ := List.mem_filterMap.1 hd
  cases e with
  | log entry =>
    cases hd
    exact endsLine_log entry
  | output o =>
    rcases o with ⟨_ | _, bs⟩ | stream
    · cases hd
    · cases hd
      exact h bs he
    · cases hd
  | connect | exec | close => cases hd

lemma wholeLines_finish {σ : Type} {c : Configuration} {client : Remote.Client} {e : Execution σ}
    (h : Event.WholeLines e.events) {r : Finish} (hr : finish c client e = some r) :
    r.WholeLines := by
  obtain ⟨result, -, rfl⟩ := Option.map_eq_some_iff.1 hr
  intro d hd
  simp only [List.mem_append, List.mem_map, List.mem_singleton] at hd
  obtain (⟨entry, -, rfl⟩ | hd) | rfl := hd
  · exact endsLine_log entry
  · exact wholeLines_diagnostics h d hd
  · exact endsLine_log _

lemma wholeLines_runConfiguration {c : Configuration} {r : Finish}
    (h : runConfiguration m c = some r) : r.WholeLines := by
  simp only [runConfiguration] at h
  split at h
  · exact wholeLines_finish (run_wholeLines _ _ rfl _ _) h
  · exact wholeLines_finish (run_wholeLines _ _ rfl _ _) h

lemma configure_verbose (m : Machine) (argv : List Bytes) :
    configure m (verboseArgument :: argv) = configure m argv := by
  cases hp : parse argv m.environment with
  | error halt =>
    have hp' := parse_verbose argv m.environment
    rw [hp] at hp'
    rw [configure_of_halt hp, configure_of_halt hp']
  | ok a =>
    have hp' := parse_verbose argv m.environment
    rw [hp] at hp'
    rw [configure_of_parsed hp, configure_of_parsed hp', Configuration.ofArguments_raised]

lemma run_verbose_cases (m : Machine) (argv : List Bytes) :
    (∃ halt, run m argv = some (halted m halt) ∧
      run m (verboseArgument :: argv) = some (halted m halt)) ∨
    ∃ a, ∃ r : Option Finish, parse argv m.environment = .ok a ∧ (∀ r' ∈ r, r'.WholeLines) ∧
      run m argv = r.map (Finish.filtered (logFilter m.environment a.verbosity)) ∧
      run m (verboseArgument :: argv) =
        r.map (Finish.filtered (logFilter m.environment a.raised.verbosity)) := by
  have hp' := parse_verbose argv m.environment
  cases hp : parse argv m.environment with
  | error halt =>
    rw [hp] at hp'
    exact .inl ⟨halt, run_of_halt hp, run_of_halt hp'⟩
  | ok a =>
    rw [hp] at hp'
    cases hc : Configuration.ofArguments m.files a with
    | error fault =>
      have hc' := (Configuration.ofArguments_raised m.files a).trans hc
      refine .inr ⟨a, some _, rfl, ?_, run_of_fault hp hc, run_of_fault hp' hc'⟩
      rintro r' hr' d hd
      cases hr'
      cases List.mem_singleton.1 hd
      exact endsLine_log _
    | ok c =>
      have hc' := (Configuration.ofArguments_raised m.files a).trans hc
      exact .inr ⟨a, runConfiguration m c, rfl, fun r' hr' => wholeLines_runConfiguration hr',
        run_of_configuration hp hc, run_of_configuration hp' hc'⟩

lemma run_verbose_of_two_le
    (h : ∀ a, parse argv m.environment = .ok a → 2 ≤ a.verbosity) :
    run m (verboseArgument :: argv) = run m argv := by
  rcases run_verbose_cases m argv with ⟨halt, hr, hr'⟩ | ⟨a, r, ha, -, hr, hr'⟩
  · rw [hr, hr']
  · rw [hr, hr', raised, logFilter_raised m.environment (h a ha)]

lemma verbosity_replicate {env : Environment} (n : Nat) {a : Arguments}
    (h : parse (List.replicate n verboseArgument ++ argv) env = .ok a) :
    min maxVerbosity n ≤ a.verbosity := by
  induction n generalizing a with
  | zero => exact Nat.zero_le _
  | succ n ih =>
    rw [List.replicate_succ, List.cons_append, parse_verbose] at h
    cases hb : parse (List.replicate n verboseArgument ++ argv) env with
    | error halt =>
      rw [hb] at h
      cases h
    | ok b =>
      rw [hb] at h
      cases h
      have hn := ih hb
      simp only [raised]
      omega

/-- One more option for verbosity ahead of a line changes neither what the program is configured to
do nor what it does: it ends with the same code and output, files and requests. What it writes to
standard error without the option stands there in the same order with it, entry by entry and line by
line, and all that is added are log entries. Behind two such options nothing is added any more. -/
theorem verbosity_adds_log_lines (m : Machine) (argv : List Bytes) :
    configure m (verboseArgument :: argv) = configure m argv ∧
    Option.Rel Finish.TellsMore (run m argv) (run m (verboseArgument :: argv)) ∧
    ((∀ a, parse argv m.environment = .ok a → 2 ≤ a.verbosity) →
      run m (verboseArgument :: argv) = run m argv) ∧
    ∀ n, 2 ≤ n → run m (List.replicate n verboseArgument ++ argv) =
      run m (verboseArgument :: verboseArgument :: argv) := by
  refine ⟨configure_verbose m argv, ?_, run_verbose_of_two_le, fun n hn => ?_⟩
  · rcases run_verbose_cases m argv with ⟨halt, hr, hr'⟩ | ⟨a, r, ha, hlines, hr, hr'⟩
    · rw [hr, hr']
      exact .some (tellsMore_refl _)
    · rw [hr, hr']
      cases r with
      | none => exact .none
      | some r =>
        exact .some (tellsMore_filtered (hlines r rfl) (logFilter_within _ a.verbosity))
  · induction n, hn using Nat.le_induction with
    | base => rfl
    | succ n hn ih =>
      rw [List.replicate_succ, List.cons_append, ← ih]
      apply run_verbose_of_two_le
      intro a ha
      have hmin := verbosity_replicate n ha
      rw [maxVerbosity] at hmin
      omega

theorem verbosity_adds_log_lines_rehearsed :
    let m : Machine := { files := {}, environment := [], network := .isolated }
    let argv := ["--dry-run", "-c", "uptime"].map Utf8.encode
    ∃ f f', run m argv = some f ∧ run m (verboseArgument :: argv) = some f' ∧
      f.diagnostics = [] ∧ f'.diagnostics.length = 4 ∧ f'.stdout = f.stdout ∧
      run m (List.replicate 300 verboseArgument ++ argv) =
        run m (verboseArgument :: verboseArgument :: argv) := by
  intro m argv
  obtain ⟨-, hmore, -, hmany⟩ := verbosity_adds_log_lines m argv
  have hquiet : (run m argv).map Finish.diagnostics = some [] := by decide +kernel
  have htold : (run m (verboseArgument :: argv)).map (·.diagnostics.length) = some 4 := by
    decide +kernel
  obtain ⟨f, hf, hquiet⟩ := Option.map_eq_some_iff.1 hquiet
  obtain ⟨f', hf', htold⟩ := Option.map_eq_some_iff.1 htold
  rw [hf, hf'] at hmore
  cases hmore with
  | some h => exact ⟨f, f', hf, hf', hquiet, htold, h.stdout, hmany 300 (by decide)⟩

end Program

end RemoteBatch
