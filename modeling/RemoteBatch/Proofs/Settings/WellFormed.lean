import RemoteBatch.Proofs.Settings.Sources
import RemoteBatch.Proofs.Text.Blank

/-! What every configuration satisfies, wherever its parts come from. -/

namespace RemoteBatch

namespace Command

structure Sound (command : String) : Prop where
  trim : Text.trim command = command
  nonempty : command ≠ ""
  noNul : '\x00' ∉ command.toList

variable {command trimmed : String} {commands sanitized : List String}

lemma sound_of_sanitize (h : sanitize command = .ok trimmed) : Sound trimmed := by
  simp only [sanitize] at h
  split at h
  · cases h
  next hempty =>
    split at h
    · cases h
    next hnul =>
      cases h
      exact ⟨Text.trim_trim command, by simpa using hempty, by simpa using hnul⟩

lemma sound_of_mapM (h : commands.mapM sanitize = .ok sanitized) :
    ∀ command ∈ sanitized, Sound command := by
  induction commands generalizing sanitized with
  | nil =>
    cases h
    simp
  | cons first commands ih =>
    rw [List.mapM_cons] at h
    obtain ⟨trimmed, hfirst, h⟩ := bind_eq_ok.1 h
    obtain ⟨rest, hrest, h⟩ := bind_eq_ok.1 h
    cases h
    exact List.forall_mem_cons.2 ⟨sound_of_sanitize hfirst, ih hrest⟩

lemma sound_of_sanitizeAll (h : sanitizeAll commands = .ok sanitized) :
    sanitized ≠ [] ∧ ∀ command ∈ sanitized, Sound command := by
  obtain ⟨trimmed, htrimmed, h⟩ := bind_eq_ok.1 h
  split at h
  · cases h
  next hempty =>
    cases h
    exact ⟨by simpa using hempty, sound_of_mapM htrimmed⟩

end Command

namespace Settings.Configuration

variable {t : FileTree} {a : Arguments} {file : FileSettings} {commands : List String}
  {c : Configuration}

lemma sound_of_commandsOf (h : commandsOf t a = .ok commands) :
    commands ≠ [] ∧ ∀ command ∈ commands, Command.Sound command := by
  simp only [commandsOf] at h
  split at h
  next path _ =>
    obtain ⟨text, -, h⟩ := bind_eq_ok.1 (mapError_eq_ok.1 h)
    exact Command.sound_of_sanitizeAll (mapError_eq_ok.1 h)
  next => exact Command.sound_of_sanitizeAll (mapError_eq_ok.1 h)

def merged (a : Arguments) (file : FileSettings) (commands : List String) : Configuration where
  host := (a.host.or file.host).getD defaultHost
  port := (a.port.or file.port).getD defaultPort
  user := (a.user.or file.user).getD defaultUser
  password := (passwordOf a file).getD ""
  timeout := .ofSeconds ((a.timeout.or file.timeout).getD defaultTimeout)
  commandTimeout := (a.commandTimeout.filter (· > 0)).map .ofSeconds
  commands := commands
  policy := policyOf a
  dryRun := a.dryRun

lemma merge_eq_ok_iff :
    merge a file commands = .ok c ↔
      problems (merged a file commands).host (merged a file commands).user
        ((a.timeout.or file.timeout).getD defaultTimeout) (policyOf a) = [] ∧
      ((passwordOf a file).isSome ∨ a.dryRun) ∧ c = merged a file commands := by
  simp only [merge, merged]
  split
  next p ps h =>
    rw [h]
    simp
  next h =>
    rw [h]
    cases hp : passwordOf a file <;> cases hd : a.dryRun <;> simp [eq_comm]

lemma ofArguments_eq_ok_iff :
    ofArguments t a = .ok c ↔
      ∃ file commands, fileSettings t a = .ok file ∧ commandsOf t a = .ok commands ∧
        merge a file commands = .ok c := by
  simp only [ofArguments, bind_eq_ok, exists_and_left]

structure WellFormed (c : Configuration) : Prop where
  host : Text.trim c.host ≠ ""
  user : Text.trim c.user ≠ ""
  timeout : 1000 ≤ c.timeout.millis
  commandTimeout : ∀ limit, c.commandTimeout = some limit → 1000 ≤ limit.millis
  policy : c.policy ≠ .rejectUnknown []
  nonempty : c.commands ≠ []
  commands : ∀ command ∈ c.commands, Command.Sound command

lemma problems_eq_nil_iff {host user : String} {timeout : Nat} {policy : HostKey.Policy} :
    problems host user timeout policy = [] ↔
      Text.trim host ≠ "" ∧ Text.trim user ≠ "" ∧ timeout ≠ 0 ∧ policy ≠ .rejectUnknown [] := by
  simp [problems, isBlankText]

lemma wellFormed_of_ofArguments (h : ofArguments t a = .ok c) : c.WellFormed := by
  obtain ⟨file, commands, -, hcommands, h⟩ := ofArguments_eq_ok_iff.1 h
  obtain ⟨hproblems, -, rfl⟩ := merge_eq_ok_iff.1 h
  obtain ⟨hhost, huser, htimeout, hpolicy⟩ := problems_eq_nil_iff.1 hproblems
  obtain ⟨hne, hsound⟩ := sound_of_commandsOf hcommands
  refine ⟨hhost, huser, ?_, ?_, hpolicy, hne, hsound⟩
  · simp only [merged, Duration.ofSeconds]
    omega
  · intro limit hl
    obtain ⟨n, hn, rfl⟩ := Option.map_eq_some_iff.1 hl
    have hpos : 0 < n := by simpa using (Option.filter_eq_some_iff.1 hn).2
    simp only [Duration.ofSeconds]
    omega

end Settings.Configuration

end RemoteBatch
