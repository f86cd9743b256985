import RemoteBatch.Proofs.Command.Offenders
import RemoteBatch.Proofs.Text.Written

/-! The stages of configuring: the settings file, the commands, the merged values and the password.
Whether a stage fails, and with what, is told from what it judges; the first that fails decides. -/

namespace RemoteBatch.Settings.Configuration

open Text (AllBlank)

inductive Stage
  | settingsFile
  | commands
  | values
  | password
  deriving DecidableEq, Repr

def Stage.ahead : Stage → List Stage
  | settingsFile => []
  | commands => [settingsFile]
  | values => [settingsFile, commands]
  | password => [settingsFile, commands, values]

def Supplied (t : FileTree) (a : Arguments) (commands : List String) : Prop :=
  match a.commandsFile with
  | none => commands = a.commands
  | some p => ∃ text, t.readText p = .ok text ∧ commands = Command.ofText text

def Problem.all : List Problem := [hostBlank, userBlank, timeoutZero, noFingerprint]

def Violated (a : Arguments) (file : FileSettings) : Problem → Prop
  | .hostBlank => AllBlank ((a.host.or file.host).getD defaultHost).toList
  | .userBlank => AllBlank ((a.user.or file.user).getD defaultUser).toList
  | .timeoutZero => (a.timeout.or file.timeout).getD defaultTimeout = 0
  | .noFingerprint => a.hostKeyPolicy = .rejectUnknown ∧ a.hostKeyFingerprints = []

instance (a : Arguments) (file : FileSettings) : DecidablePred (Violated a file)
  | .hostBlank => inferInstanceAs (Decidable (AllBlank _))
  | .userBlank => inferInstanceAs (Decidable (AllBlank _))
  | .timeoutZero => inferInstanceAs (Decidable (_ = 0))
  | .noFingerprint => inferInstanceAs (Decidable (_ ∧ _))

def violated (a : Arguments) (file : FileSettings) : List Problem :=
  Problem.all.filter (Violated a file ·)

/-- A stage that fails, with its error. The last two judge what the settings are merged with. -/
inductive Fails (t : FileTree) (a : Arguments) : Stage → RunError → Prop
  | settingsFile {p : Path} {fault : FileSettings.Fault} (hp : a.config = some p)
      (h : FileSettings.load t p = .error fault) :
      Fails t a .settingsFile (.configFile fault.message)
  | unreadable {p : Path} {fault : FileFault} (hp : a.commandsFile = some p)
      (h : t.readText p = .error fault) :
      Fails t a .commands
        (.config s!"Cannot read commands file {Utf8.decodeLossy p}: {fault.message}")
  | refused {commands : List String} {fault : Command.Fault} (hc : Supplied t a commands)
      (h : Command.FirstOffends commands fault) : Fails t a .commands (.config fault.message)
  | noCommands (hc : Supplied t a []) :
      Fails t a .commands (.config "No commands given (use --command or --commands-file)")
  | values {file : FileSettings} (hf : fileSettings t a = .ok file) (h : violated a file ≠ []) :
      Fails t a .values (.config ("\n".intercalate ((violated a file).map Problem.message)))
  | password {file : FileSettings} (hf : fileSettings t a = .ok file) (hdry : a.dryRun = false)
      (hgiven : a.password = none ∨ a.password = some "") (hstored : file.password = none) :
      Fails t a .password
        (.config "Missing password (use --password, SSH_RUNNER_PASSWORD or the config file)")

def FailsFirst (t : FileTree) (a : Arguments) (stage : Stage) (e : RunError) : Prop :=
  Fails t a stage e ∧ ∀ earlier ∈ stage.ahead, ∀ other, ¬Fails t a earlier other

variable {t : FileTree} {a : Arguments} {file : FileSettings} {commands : List String}
  {c : Configuration} {fault : Fault} {e : RunError}

lemma fails_settingsFile_iff :
    Fails t a .settingsFile e ↔ ∃ fault, fileSettings t a = .error fault ∧ fault.error = e := by
  rw [fileSettings]
  constructor
  · rintro ⟨hp, h⟩
    rw [hp]
    exact ⟨_, mapError_eq_error.2 ⟨_, h, rfl⟩, rfl⟩
  · rintro ⟨fault, h, rfl⟩
    split at h
    next => cases h
    next p hp =>
      obtain ⟨inner, hload, rfl⟩ := mapError_eq_error.1 h
      exact .settingsFile hp hload

lemma commandFile_read_eq_error_iff {p : Path} {inner : CommandFile.Fault} :
    CommandFile.read t p = .error inner ↔
      (∃ fault, t.readText p = .error fault ∧ inner = .unreadable p fault) ∨
        ∃ text, t.readText p = .ok text ∧
          ∃ fault, Command.sanitizeAll (Command.ofText text) = .error fault ∧
            inner = .commands fault := by
  simp only [CommandFile.read, bind_eq_error, mapError_eq_error, mapError_eq_ok,
    eq_comm (a := inner)]

lemma fails_of_supplied {fault : Command.Fault} (hc : Supplied t a commands)
    (h : Command.sanitizeAll commands = .error fault) :
    Fails t a .commands (.config fault.message) := by
  rcases Command.sanitizeAll_eq_error_iff.1 h with h | ⟨rfl, rfl⟩
  · exact .refused hc h
  · exact .noCommands hc

lemma commandsOf_of_supplied {fault : Command.Fault} (hc : Supplied t a commands)
    (h : Command.sanitizeAll commands = .error fault) :
    ∃ outer, commandsOf t a = .error outer ∧ outer.error = .config fault.message := by
  rw [Supplied] at hc
  rw [commandsOf]
  split at hc
  next hp =>
    subst hc
    rw [hp]
    exact ⟨.commands fault, mapError_eq_error.2 ⟨fault, h, rfl⟩, rfl⟩
  next p hp =>
    obtain ⟨text, hread, rfl⟩ := hc
    rw [hp]
    have hfile := commandFile_read_eq_error_iff.2 (.inr ⟨text, hread, fault, h, rfl⟩)
    exact ⟨.commandFile (.commands fault), mapError_eq_error.2 ⟨_, hfile, rfl⟩, rfl⟩

lemma fails_commands_iff :
    Fails t a .commands e ↔ ∃ fault, commandsOf t a = .error fault ∧ fault.error = e := by
  constructor
  · rintro (_ | ⟨hp, h⟩ | ⟨hc, h⟩ | hc)
    · rw [commandsOf, hp]
      have hfile := commandFile_read_eq_error_iff.2 (.inl ⟨_, h, rfl⟩)
      exact ⟨_, mapError_eq_error.2 ⟨_, hfile, rfl⟩, rfl⟩
    · exact commandsOf_of_supplied hc (Command.sanitizeAll_eq_error_iff.2 (.inl h))
    · exact commandsOf_of_supplied hc (Command.sanitizeAll_eq_error_iff.2 (.inr ⟨rfl, rfl⟩))
  · rintro ⟨fault, h, rfl⟩
    rw [commandsOf] at h
    split at h
    next p hp =>
      obtain ⟨inner, hread, rfl⟩ := mapError_eq_error.1 h
      rcases commandFile_read_eq_error_iff.1 hread with
        ⟨fault, hfile, rfl⟩ | ⟨text, hfile, fault, hs, rfl⟩
      · exact .unreadable hp hfile
      · have hc : Supplied t a (Command.ofText text) := by
          rw [Supplied, hp]
          exact ⟨text, hfile, rfl⟩
        exact fails_of_supplied hc hs
    next hp =>
      obtain ⟨fault, hs, rfl⟩ := mapError_eq_error.1 h
      have hc : Supplied t a a.commands := by rw [Supplied, hp]
      exact fails_of_supplied hc hs

lemma isBlankText_eq (s : String) : isBlankText s = decide (AllBlank s.toList) := by
  rw [isBlankText, Bool.eq_iff_iff, decide_eq_true_iff, decide_eq_true_iff,
    Command.trim_eq_empty_iff]

lemma policyOf_eq_iff :
    policyOf a = .rejectUnknown [] ↔
      a.hostKeyPolicy = .rejectUnknown ∧ a.hostKeyFingerprints = [] := by
  rw [policyOf]
  split <;> simp_all

lemma filter_cons_eq_append {α : Type} (p : α → Bool) (x : α) (xs : List α) :
    (x :: xs).filter p = (if p x then [x] else []) ++ xs.filter p := by
  cases h : p x <;> simp [h]

lemma problems_eq_violated :
    problems ((a.host.or file.host).getD defaultHost) ((a.user.or file.user).getD defaultUser)
      ((a.timeout.or file.timeout).getD defaultTimeout) (policyOf a) = violated a file := by
  simp only [problems, violated, Problem.all, filter_cons_eq_append, List.filter_nil,
    isBlankText_eq, policyOf_eq_iff, decide_eq_true_eq, List.append_assoc, List.append_nil]
  rfl

lemma merge_eq_error_iff :
    merge a file commands = .error fault ↔
      violated a file ≠ [] ∧ fault = .problems (violated a file) ∨
        violated a file = [] ∧ a.dryRun = false ∧ passwordOf a file = none ∧
          fault = .noPassword := by
  simp only [merge, problems_eq_violated]
  split
  next p ps h => simp [h, eq_comm (a := fault)]
  next h =>
    cases hp : passwordOf a file <;> cases hd : a.dryRun <;> simp [h, eq_comm (a := fault)]

lemma fails_values_iff (hf : fileSettings t a = .ok file) :
    Fails t a .values e ↔
      violated a file ≠ [] ∧ e = (Fault.problems (violated a file)).error := by
  constructor
  · intro hfails
    cases hfails with
    | values hf' h =>
      cases hf.symm.trans hf'
      exact ⟨h, rfl⟩
  · rintro ⟨h, rfl⟩
    exact .values hf h

lemma filter_eq_none_iff {password : Option String} :
    password.filter (· ≠ "") = none ↔ password = none ∨ password = some "" := by
  cases password <;> simp

lemma passwordOf_eq_none_iff :
    passwordOf a file = none ↔
      (a.password = none ∨ a.password = some "") ∧ file.password = none := by
  rw [passwordOf, Option.or_eq_none_iff, filter_eq_none_iff]

lemma fails_password_iff (hf : fileSettings t a = .ok file) :
    Fails t a .password e ↔
      a.dryRun = false ∧ passwordOf a file = none ∧ e = Fault.noPassword.error := by
  constructor
  · intro hfails
    cases hfails with
    | password hf' hdry hgiven hstored =>
      cases hf.symm.trans hf'
      exact ⟨hdry, passwordOf_eq_none_iff.2 ⟨hgiven, hstored⟩, rfl⟩
  · rintro ⟨hdry, hp, rfl⟩
    obtain ⟨hgiven, hstored⟩ := passwordOf_eq_none_iff.1 hp
    exact .password hf hdry hgiven hstored

lemma ofArguments_eq_error_iff :
    ofArguments t a = .error fault ↔
      fileSettings t a = .error fault ∨
        ∃ file, fileSettings t a = .ok file ∧
          (commandsOf t a = .error fault ∨
            ∃ commands, commandsOf t a = .ok commands ∧ merge a file commands = .error fault) := by
  simp only [ofArguments, bind_eq_error]

lemma not_fails_of_ok {α : Type} {x : Except Fault α} {value : α} (h : x = .ok value)
    {stage : Stage} (hx : ∀ {e}, Fails t a stage e → ∃ fault, x = .error fault ∧ fault.error = e)
    (e : RunError) : ¬Fails t a stage e := by
  intro hfails
  obtain ⟨fault, hfault, -⟩ := hx hfails
  cases h.symm.trans hfault

lemma exists_ok {α : Type} {x : Except Fault α} {stage : Stage}
    (hx : ∀ {e}, (∃ fault, x = .error fault ∧ fault.error = e) → Fails t a stage e)
    (h : ∀ e, ¬Fails t a stage e) : ∃ value, x = .ok value := by
  cases x with
  | ok value => exact ⟨value, rfl⟩
  | error fault => exact absurd (hx ⟨fault, rfl, rfl⟩) (h _)

lemma failsFirst_password (hf : fileSettings t a = .ok file) (hc : commandsOf t a = .ok commands)
    (hv : violated a file = []) (hdry : a.dryRun = false) (hp : passwordOf a file = none) :
    FailsFirst t a .password (Fault.error .noPassword) := by
  have hsettings := not_fails_of_ok hf fails_settingsFile_iff.1
  have hcommands := not_fails_of_ok hc fails_commands_iff.1
  have hvalues : ∀ e, ¬Fails t a .values e := fun e he => ((fails_values_iff hf).1 he).1 hv
  exact ⟨(fails_password_iff hf).2 ⟨hdry, hp, rfl⟩, by
    simpa [Stage.ahead] using ⟨hsettings, hcommands, hvalues⟩⟩

lemma failsFirst_of_ofArguments (h : ofArguments t a = .error fault) :
    ∃ stage, FailsFirst t a stage fault.error := by
  rcases ofArguments_eq_error_iff.1 h with hf | ⟨file, hf, hc | ⟨commands, hc, hm⟩⟩
  · exact ⟨.settingsFile, fails_settingsFile_iff.2 ⟨fault, hf, rfl⟩, by simp [Stage.ahead]⟩
  all_goals have hsettings := not_fails_of_ok hf fails_settingsFile_iff.1
  · exact ⟨.commands, fails_commands_iff.2 ⟨fault, hc, rfl⟩, by simpa [Stage.ahead] using hsettings⟩
  rcases merge_eq_error_iff.1 hm with ⟨hv, rfl⟩ | ⟨hv, hdry, hp, rfl⟩
  · have hcommands := not_fails_of_ok hc fails_commands_iff.1
    exact ⟨.values, (fails_values_iff hf).2 ⟨hv, rfl⟩, by
      simpa [Stage.ahead] using ⟨hsettings, hcommands⟩⟩
  · exact ⟨.password, failsFirst_password hf hc hv hdry hp⟩

lemma noPassword_of_failsFirst (h : FailsFirst t a .password e) :
    ofArguments t a = .error .noPassword := by
  obtain ⟨hfails, hahead⟩ := h
  obtain ⟨file, hf⟩ := exists_ok fails_settingsFile_iff.2 (hahead .settingsFile (by decide))
  obtain ⟨commands, hc⟩ := exists_ok fails_commands_iff.2 (hahead .commands (by decide))
  obtain ⟨hdry, hp, -⟩ := (fails_password_iff hf).1 hfails
  have hv : violated a file = [] := by
    by_contra hv
    exact hahead .values (by decide) _ ((fails_values_iff hf).2 ⟨hv, rfl⟩)
  exact ofArguments_eq_error_iff.2
    (.inr ⟨file, hf, .inr ⟨commands, hc, merge_eq_error_iff.2 (.inr ⟨hv, hdry, hp, rfl⟩)⟩⟩)

lemma ofArguments_of_failsFirst {stage : Stage} (h : FailsFirst t a stage e) :
    ∃ fault, ofArguments t a = .error fault ∧ fault.error = e := by
  obtain ⟨hfails, hahead⟩ := h
  cases stage with
  | settingsFile =>
    obtain ⟨fault, hf, rfl⟩ := fails_settingsFile_iff.1 hfails
    exact ⟨fault, ofArguments_eq_error_iff.2 (.inl hf), rfl⟩
  | commands =>
    obtain ⟨file, hf⟩ := exists_ok fails_settingsFile_iff.2 (hahead .settingsFile (by decide))
    obtain ⟨fault, hc, rfl⟩ := fails_commands_iff.1 hfails
    exact ⟨fault, ofArguments_eq_error_iff.2 (.inr ⟨file, hf, .inl hc⟩), rfl⟩
  | values =>
    obtain ⟨file, hf⟩ := exists_ok fails_settingsFile_iff.2 (hahead .settingsFile (by decide))
    obtain ⟨commands, hc⟩ := exists_ok fails_commands_iff.2 (hahead .commands (by decide))
    obtain ⟨hv, rfl⟩ := (fails_values_iff hf).1 hfails
    exact ⟨.problems (violated a file), ofArguments_eq_error_iff.2
      (.inr ⟨file, hf, .inr ⟨commands, hc, merge_eq_error_iff.2 (.inl ⟨hv, rfl⟩)⟩⟩), rfl⟩
  | password =>
    refine ⟨.noPassword, noPassword_of_failsFirst ⟨hfails, hahead⟩, ?_⟩
    cases hfails
    rfl

lemma not_fails_of_ofArguments (h : ofArguments t a = .ok c) (stage : Stage) (e : RunError) :
    ¬Fails t a stage e := by
  obtain ⟨file, commands, hf, hc, hm⟩ := ofArguments_eq_ok_iff.1 h
  have hv : violated a file = [] := by
    by_contra hv
    cases hm.symm.trans (merge_eq_error_iff.2 (.inl ⟨hv, rfl⟩))
  intro hfails
  cases stage with
  | settingsFile => exact not_fails_of_ok hf fails_settingsFile_iff.1 e hfails
  | commands => exact not_fails_of_ok hc fails_commands_iff.1 e hfails
  | values => exact ((fails_values_iff hf).1 hfails).1 hv
  | password =>
    obtain ⟨hdry, hp, -⟩ := (fails_password_iff hf).1 hfails
    cases hm.symm.trans (merge_eq_error_iff.2 (.inr ⟨hv, hdry, hp, rfl⟩))

lemma mapError_ofArguments_iff :
    (ofArguments t a).mapError Fault.error = .error e ↔ ∃ stage, FailsFirst t a stage e := by
  rw [mapError_eq_error]
  constructor
  · rintro ⟨fault, h, rfl⟩
    exact failsFirst_of_ofArguments h
  · rintro ⟨stage, h⟩
    exact ofArguments_of_failsFirst h

lemma lines_problems (found : List Problem) :
    Text.lines ("\n".intercalate (found.map Problem.message)).toList =
      found.map fun problem => problem.message.toList := by
  have hends : ∀ problem : Problem, problem.message.toList ≠ [] ∧
      Text.LineEnd.lineFeed.Ends problem.message.toList := by
    intro problem
    cases problem <;> decide +kernel
  rw [String.toList_intercalate, List.map_map]
  apply Text.lines_intercalate
  · exact List.forall_mem_map.2 fun problem _ => (hends problem).1
  · exact List.forall_mem_map.2 fun problem _ => (hends problem).2

/-- Configuring fails just when a stage fails, and then with the error of the first that does; all
that is wrong with the values is told together, each on a line of its own. -/
theorem ofArguments_fails_first (t : FileTree) (a : Arguments) :
    (∀ e, (ofArguments t a).mapError Fault.error = .error e ↔ ∃ stage, FailsFirst t a stage e) ∧
      ((∃ c, ofArguments t a = .ok c) ↔ ∀ stage e, ¬Fails t a stage e) ∧
      ∀ file, Text.lines ("\n".intercalate ((violated a file).map Problem.message)).toList =
        (violated a file).map fun problem => problem.message.toList := by
  refine ⟨fun e => mapError_ofArguments_iff, ⟨?_, fun h => ?_⟩, fun file => lines_problems _⟩
  · rintro ⟨c, h⟩
    exact not_fails_of_ofArguments h
  · cases hc : ofArguments t a with
    | ok c => exact ⟨c, rfl⟩
    | error fault =>
      obtain ⟨stage, hfails, -⟩ := failsFirst_of_ofArguments hc
      exact absurd hfails (h stage _)

theorem ofArguments_fails_first_values :
    let a : Arguments := { host := some " ", timeout := some 0, commands := ["uptime"] }
    let reason := "Host cannot be empty\nTimeout must be at least 1 second"
    (ofArguments {} a).mapError Fault.error = .error (.config reason) ∧
      Fails {} a .password (Fault.error .noPassword) := by
  intro a reason
  have hf : fileSettings {} a = .ok {} := rfl
  have hviolated : violated a {} = [.hostBlank, .timeoutZero] := by decide +kernel
  have hfirst : FailsFirst {} a .values (.config reason) := by
    refine ⟨(fails_values_iff hf).2 ⟨by simp [hviolated], ?_⟩, ?_⟩
    · rw [hviolated]
      decide +kernel
    · have hc : commandsOf {} a = .ok ["uptime"] := by decide +kernel
      simpa [Stage.ahead] using
        ⟨not_fails_of_ok hf fails_settingsFile_iff.1, not_fails_of_ok hc fails_commands_iff.1⟩
  exact ⟨((ofArguments_fails_first {} a).1 _).2 ⟨.values, hfirst⟩,
    (fails_password_iff hf).2 ⟨rfl, rfl, rfl⟩⟩

end RemoteBatch.Settings.Configuration
