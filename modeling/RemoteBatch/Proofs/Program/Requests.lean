import RemoteBatch.Proofs.Program.ExitCode
import RemoteBatch.Proofs.Remote.Requests
import RemoteBatch.Proofs.Settings.WellFormed

/-! What a program asks servers to run. A configuration has sound commands only, and no others are
sent, in no other order. -/

namespace RemoteBatch.Program

open Run Settings

variable {m : Machine} {argv : List Bytes} {c : Configuration} {f : Finish}

def execution (m : Machine) (c : Configuration) : Execution Remote.Client :=
  Run.run (Remote.connector m.network c.remote) c.commands (shutdown m) { out := m.out }
    { files := m.files }

lemma ofArguments_of_configure (h : configure m argv = .ok c) :
    ∃ a, Arguments.parse argv m.environment = .ok a ∧
      Configuration.ofArguments m.files a = .ok c := by
  obtain ⟨a, ha, hc⟩ := bind_eq_ok.1 h
  exact ⟨a, mapError_eq_ok.1 ha, mapError_eq_ok.1 hc⟩

lemma client_of_runConfiguration (h : runConfiguration m c = some f) :
    f.client = if c.dryRun then { files := m.files } else (execution m c).state := by
  simp only [runConfiguration] at h
  split at h
  next hd =>
    obtain ⟨result, -, rfl⟩ := Option.map_eq_some_iff.1 h
    rw [if_pos hd]
  next hd =>
    obtain ⟨result, -, rfl⟩ := Option.map_eq_some_iff.1 h
    rw [if_neg hd]
    rfl

lemma client_of_run (h : run m argv = some f) :
    f.client = { files := m.files } ∨
      ∃ c, configure m argv = .ok c ∧ c.dryRun = false ∧ f.client = (execution m c).state := by
  cases hc : configure m argv with
  | error cause => exact .inl (client_of_unready h hc)
  | ok c =>
    obtain ⟨a, ha, hof⟩ := ofArguments_of_configure hc
    rw [run_of_configuration ha hof] at h
    obtain ⟨g, hg, rfl⟩ := Option.map_eq_some_iff.1 h
    have hclient := client_of_runConfiguration hg
    cases hd : c.dryRun with
    | true =>
      rw [hd, if_pos rfl] at hclient
      exact .inl hclient
    | false =>
      rw [hd, if_neg Bool.false_ne_true] at hclient
      exact .inr ⟨c, rfl, hd, hclient⟩

lemma asked_execution (m : Machine) (c : Configuration) :
    (execution m c).state.asked <+: c.commands := by
  obtain ⟨⟨sent, hs, hstate⟩, -⟩ := run_asks (Remote.connector_asks m.network c.remote) c.commands
    (shutdown m) { out := m.out } { files := m.files }
  exact hstate ▸ hs

/-- Every configuration is well formed and handed on as it is, and whatever the network is, only its
commands are sent, from the first one on and in their order. -/
theorem requests_well_formed (m : Machine) (argv : List Bytes) :
    (∀ c, configure m argv = .ok c → c.WellFormed ∧
      c.remote = ⟨c.host, c.user, c.password, c.port, c.timeout, c.commandTimeout, c.policy⟩ ∧
      (execution m c).state.asked <+: c.commands ∧
      ∀ command ∈ (execution m c).state.asked, Command.Sound command) ∧
    ∀ f, run m argv = some f → f.client.asked ≠ [] →
      ∃ c, configure m argv = .ok c ∧ f.client = (execution m c).state := by
  refine ⟨fun c hc => ?_, fun f hf hne => ?_⟩
  · obtain ⟨a, -, hof⟩ := ofArguments_of_configure hc
    have hwf := Configuration.wellFormed_of_ofArguments hof
    have hasked := asked_execution m c
    exact ⟨hwf, rfl, hasked, fun command h => hwf.commands command (hasked.subset h)⟩
  · rcases client_of_run hf with hclient | ⟨c, hc, -, hclient⟩
    · rw [hclient] at hne
      exact absurd rfl hne
    · exact ⟨c, hc, hclient⟩

theorem requests_well_formed_file :
    let commands := Utf8.encode "# maintenance\n  uptime\t\n\n echo #1\n"
    let s : Remote.Server :=
      { key := ⟨.ed25519 (List.replicate 32 1), ""⟩
        start := fun n => if n = 1 then .refused "Disconnected" else .opens
        scripts := [[.message (.status 0), .message .close]] }
    let m : Machine :=
      { files := { nodes := [([Utf8.encode "list"], .file commands)] }
        environment := [("SSH_RUNNER_PASSWORD", Utf8.encode "a")]
        network := fun _ _ => .server s }
    let argv := ["--commands-file=list", "--host-key-policy=accept-any"].map Utf8.encode
    ∃ c f, configure m argv = .ok c ∧ c.commands = ["uptime", "echo #1"] ∧ c.WellFormed ∧
      run m argv = some f ∧ f.client.asked = ["uptime"] ∧ Command.Sound "uptime" := by
  intro commands s m argv
  have hc : configure m argv = .ok
      { host := "192.168.1.2", port := 22, user := "root", password := "a", timeout := ⟨10000⟩
        commandTimeout := none, commands := ["uptime", "echo #1"], policy := .acceptAny
        dryRun := false } := by decide +kernel
  have hasked : (run m argv).map (·.client.asked) = some ["uptime"] := by decide +kernel
  obtain ⟨f, hf, hfa⟩ := Option.map_eq_some_iff.1 hasked
  obtain ⟨hconfigured, hsent⟩ := requests_well_formed m argv
  obtain ⟨c, hc', hclient⟩ := hsent f hf (by simp [hfa])
  obtain ⟨hwf, -, -, hsound⟩ := hconfigured c hc'
  refine ⟨c, f, hc', ?_, hwf, hf, hfa, hsound _ ?_⟩
  · cases hc.symm.trans hc'
    rfl
  · rw [← hclient, hfa]
    exact List.mem_singleton_self _

end RemoteBatch.Program
