import RemoteBatch.Program
import RemoteBatch.Proofs.Settings.Sources

/-! Exit codes. The code tells whether the program only told about itself, was refused its
arguments, failed, was interrupted, or has a report. A program that gets no configuration meets no
server, writes no file, and reads none but those that it is configured from. -/

namespace RemoteBatch.Program

open Run Settings

inductive Unready
  | halt (halt : Halt)
  | fault (fault : Configuration.Fault)
  deriving DecidableEq

def configure (m : Machine) (argv : List Bytes) : Except Unready Configuration := do
  let a ← (Arguments.parse argv m.environment).mapError .halt
  (Configuration.ofArguments m.files a).mapError .fault

def outcome (m : Machine) (c : Configuration) : Option (Except RunError Report) :=
  if c.dryRun then
    (Run.run (dryRun c.target) c.commands (shutdown m) { out := m.out } ()).result
  else
    (Run.run (Remote.connector m.network c.remote) c.commands (shutdown m) { out := m.out }
      { files := m.files }).result

def faulted (m : Machine) (a : Arguments) (fault : Configuration.Fault) : Finish :=
  Finish.filtered (logFilter m.environment a.verbosity)
    { code := 1
      diagnostics := [.log (Topic.program.error fault.error.message)]
      client := { files := m.files } }

variable {m : Machine} {argv : List Bytes}

lemma code_conclusion_ok (n : Nat) (report : Report) : (conclusion n (.ok report)).1 = 0 := by
  simp only [conclusion]
  split <;> rfl

lemma code_conclusion_interrupted (n : Nat) : (conclusion n (.error .interrupted)).1 = 130 := rfl

lemma code_conclusion_error (n : Nat) {cause : RunError} (h : cause ≠ .interrupted) :
    (conclusion n (.error cause)).1 = 1 := by
  cases cause <;> first | rfl | exact absurd rfl h

lemma code_runConfiguration (m : Machine) (c : Configuration) :
    (runConfiguration m c).map Finish.code =
      (outcome m c).map fun result => (conclusion c.commands.length result).1 := by
  simp only [runConfiguration, outcome]
  split <;> simp only [finish, Option.map_map] <;> rfl

lemma run_of_halt {halt : Halt} (h : Arguments.parse argv m.environment = .error halt) :
    run m argv = some (halted m halt) := by
  simp only [run, h]

lemma run_of_fault {a : Arguments} {fault : Configuration.Fault}
    (h : Arguments.parse argv m.environment = .ok a)
    (hc : Configuration.ofArguments m.files a = .error fault) :
    run m argv = some (faulted m a fault) := by
  simp only [run, h, hc, faulted]

lemma run_of_configuration {a : Arguments} {c : Configuration}
    (h : Arguments.parse argv m.environment = .ok a)
    (hc : Configuration.ofArguments m.files a = .ok c) :
    run m argv =
      (runConfiguration m c).map (Finish.filtered (logFilter m.environment a.verbosity)) := by
  simp only [run, h, hc]

lemma configure_of_halt {halt : Halt} (h : Arguments.parse argv m.environment = .error halt) :
    configure m argv = .error (.halt halt) := by
  rw [configure, h]
  rfl

lemma configure_of_parsed {a : Arguments} (h : Arguments.parse argv m.environment = .ok a) :
    configure m argv = (Configuration.ofArguments m.files a).mapError .fault := by
  rw [configure, h]
  rfl

lemma run_cases {f : Finish} (h : run m argv = some f) :
    (∃ halt, configure m argv = .error (.halt halt) ∧ f = halted m halt) ∨
    (∃ a fault, configure m argv = .error (.fault fault) ∧ f = faulted m a fault) ∨
    ∃ c result, configure m argv = .ok c ∧ outcome m c = some result ∧
      f.code = (conclusion c.commands.length result).1 := by
  cases hp : Arguments.parse argv m.environment with
  | error halt =>
    rw [run_of_halt hp] at h
    exact .inl ⟨halt, configure_of_halt hp, (Option.some.inj h).symm⟩
  | ok a =>
    rw [configure_of_parsed hp]
    cases hc : Configuration.ofArguments m.files a with
    | error fault =>
      rw [run_of_fault hp hc] at h
      exact .inr (.inl ⟨a, fault, rfl, (Option.some.inj h).symm⟩)
    | ok c =>
      rw [run_of_configuration hp hc] at h
      obtain ⟨g, hg, rfl⟩ := Option.map_eq_some_iff.1 h
      have hcode := code_runConfiguration m c
      rw [hg] at hcode
      obtain ⟨result, hr, hcode⟩ := Option.map_eq_some_iff.1 hcode.symm
      exact .inr (.inr ⟨c, result, rfl, hr, hcode.symm⟩)

lemma configure_of_alike {network : Remote.Network} {signal : Option Signal} {t : FileTree}
    {hidden : Set Place} (ht : FileTree.AlikeBut hidden m.files t)
    (hmiss : ∀ a, Arguments.parse argv m.environment = .ok a →
      ∀ path ∈ Configuration.sources m.files a, m.files.Misses path hidden) :
    configure { m with network, signal, files := t } argv = configure m argv := by
  cases hp : Arguments.parse argv m.environment with
  | error halt =>
    rw [configure_of_halt hp]
    exact configure_of_halt hp
  | ok a =>
    rw [configure_of_parsed hp, ← Configuration.ofArguments_eq ht (hmiss a hp)]
    exact configure_of_parsed hp

section Unready

variable {f : Finish} (h : run m argv = some f) {cause : Unready}
  (hno : configure m argv = .error cause)

include h hno

lemma client_of_unready : f.client = { files := m.files } := by
  rcases run_cases h with ⟨halt, -, rfl⟩ | ⟨a, fault, -, rfl⟩ | ⟨c, result, hc, -, -⟩
  · cases halt <;> rfl
  · rfl
  · cases hno.symm.trans hc

lemma stdout_of_unready (hhelp : ∀ long, cause ≠ .halt (.help long))
    (hversion : cause ≠ .halt .version) : f.stdout = [] := by
  rcases run_cases h with ⟨halt, hc, rfl⟩ | ⟨a, fault, -, rfl⟩ | ⟨c, result, hc, -, -⟩
  · cases hno.symm.trans hc
    cases halt with
    | usage e => rfl
    | help long => exact absurd rfl (hhelp long)
    | version => exact absurd rfl hversion
  · rfl
  · cases hno.symm.trans hc

lemma run_of_unready {network : Remote.Network} {signal : Option Signal} {t : FileTree}
    (hno' : configure { m with network, signal, files := t } argv = .error cause) :
    run { m with network, signal, files := t } argv = some { f with client := { files := t } } := by
  cases hp : Arguments.parse argv m.environment with
  | error halt =>
    rw [run_of_halt hp] at h
    cases h
    rw [run_of_halt (m := { m with network, signal, files := t }) hp]
    cases halt <;> rfl
  | ok a =>
    rw [configure_of_parsed hp] at hno
    rw [configure_of_parsed (m := { m with network, signal, files := t }) hp] at hno'
    obtain ⟨fault, hc, rfl⟩ := mapError_eq_error.1 hno
    obtain ⟨fault', hc', he⟩ := mapError_eq_error.1 hno'
    cases he
    rw [run_of_fault hp hc] at h
    cases h
    rw [run_of_fault (m := { m with network, signal, files := t }) hp hc']
    rfl

end Unready

/-- Each code has its causes, and they are all. Without a configuration the program writes nothing
but what it tells about itself, and does the same whatever the network, a signal, and files are
that it was not to be configured from. -/
theorem exit_code (m : Machine) (argv : List Bytes) (f : Finish) (h : run m argv = some f) :
    ((f.code = 0 ↔ (∃ long, configure m argv = .error (.halt (.help long))) ∨
        configure m argv = .error (.halt .version) ∨
        ∃ c report, configure m argv = .ok c ∧ outcome m c = some (.ok report)) ∧
      (f.code = 130 ↔ ∃ c, configure m argv = .ok c ∧ outcome m c = some (.error .interrupted)) ∧
      (f.code = 2 ↔ ∃ e, configure m argv = .error (.halt (.usage e))) ∧
      (f.code = 1 ↔ (∃ fault, configure m argv = .error (.fault fault)) ∨
        ∃ c cause, configure m argv = .ok c ∧ outcome m c = some (.error cause) ∧
          cause ≠ .interrupted)) ∧
    ∀ cause, configure m argv = .error cause →
      f.client = { files := m.files } ∧
      ((∀ long, cause ≠ .halt (.help long)) → cause ≠ .halt .version → f.stdout = []) ∧
      ∀ network signal place old new, m.files.node? place = some (.file old) →
        (∀ a, Arguments.parse argv m.environment = .ok a →
          ∀ path ∈ Configuration.sources m.files a, m.files.locate path ≠ .ok place) →
        run { m with network, signal, files := m.files.set place (.file new) } argv =
          some { f with client := { files := m.files.set place (.file new) } } := by
  refine ⟨?_, fun cause hno => ⟨client_of_unready h hno, stdout_of_unready h hno, ?_⟩⟩
  · rcases run_cases h with ⟨halt, hc, rfl⟩ | ⟨a, fault, hc, rfl⟩ | ⟨c, result, hc, hr, hcode⟩
    · cases halt <;> simp [hc, halted]
    · simp [hc, faulted, Finish.filtered]
    · have hconf (c' : Configuration) : configure m argv = .ok c' ↔ c' = c := by
        simp [hc, eq_comm]
      simp only [hcode, hconf]
      cases result with
      | ok report => simp [code_conclusion_ok, hr, hc]
      | error cause =>
        by_cases hi : cause = .interrupted
        · subst hi
          simp [code_conclusion_interrupted, hr, hc]
        · simp [code_conclusion_error _ hi, hr, hc, hi]
  · intro network signal place old new hold hplace
    apply run_of_unready h hno
    rw [configure_of_alike (.of_file hold new) (by simpa using hplace), hno]

theorem exit_code_unexpected :
    let m : Machine := { files := {}, environment := [], network := .isolated }
    let argv := ["--dry-run", "-c", "uptime"].map Utf8.encode
    (∃ f, run m (argv ++ [Utf8.encode "router"]) = some f ∧ f.code = 2 ∧ f.stdout = []) ∧
      ∃ f, run m argv = some f ∧ f.code = 0 := by
  intro m argv
  have hbad : Arguments.parse (argv ++ [Utf8.encode "router"]) m.environment =
      .error (.usage (.unexpectedArgument "router")) := by decide +kernel
  have hno := configure_of_halt hbad
  obtain ⟨⟨-, -, htwo, -⟩, hearly⟩ := exit_code m _ _ (run_of_halt hbad)
  obtain ⟨-, hstdout, -⟩ := hearly _ hno
  have hc : configure m argv = .ok
      { host := "192.168.1.2", port := 22, user := "root", password := "", timeout := ⟨10000⟩
        commandTimeout := none, commands := ["uptime"], policy := .strictKnownHosts none
        dryRun := true } := by decide +kernel
  obtain ⟨f, hf⟩ := Option.isSome_iff_exists.1 (show (run m argv).isSome by decide +kernel)
  obtain ⟨⟨hzero, -⟩, -⟩ := exit_code m argv f hf
  refine ⟨⟨_, run_of_halt hbad, htwo.2 ⟨_, hno⟩, hstdout (by simp) (by simp)⟩, f, hf, ?_⟩
  exact hzero.2 (.inr (.inr ⟨_, ⟨[dryResult "uptime"], .completed⟩, hc, by decide +kernel⟩))

end RemoteBatch.Program
