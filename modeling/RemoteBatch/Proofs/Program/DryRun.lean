import RemoteBatch.Proofs.Program.Requests
import RemoteBatch.Proofs.Run.DryRun
import RemoteBatch.Proofs.Settings.DryRun

/-! Programs that are asked for a dry run. They meet no server, read nothing but what they are
configured from and write no file, and print the commands that the real run would send. -/

namespace RemoteBatch.Program

open Run Settings

variable {m : Machine} {argv : List Bytes} {a : Arguments} {c : Configuration}

def rehearsal (m : Machine) (c : Configuration) : Execution Unit :=
  Run.run (dryRun c.target) c.commands .never { out := m.out } ()

lemma runConfiguration_of_dryRun (hd : c.dryRun) :
    runConfiguration m c = finish c { files := m.files } (rehearsal m c) := by
  simp only [runConfiguration, hd, if_true]
  rw [run_dryRun_shutdown, rehearsal]

lemma dryRun_of_ofArguments {t : FileTree} (h : Configuration.ofArguments t a = .ok c) :
    c.dryRun = a.dryRun := by
  obtain ⟨file, commands, -, -, hm⟩ := Configuration.ofArguments_eq_ok_iff.1 h
  obtain ⟨-, -, rfl⟩ := Configuration.merge_eq_ok_iff.1 hm
  rfl

lemma finish_client {σ : Type} (c : Configuration) (client client' : Remote.Client)
    (e : Execution σ) :
    finish c client' e = (finish c client e).map fun f => { f with client := client' } := by
  rw [finish, finish, Option.map_map]
  rfl

lemma run_of_dryRun (ha : Arguments.parse argv m.environment = .ok a)
    (hc : Configuration.ofArguments m.files a = .ok c) (hd : c.dryRun) :
    run m argv = (finish c { files := m.files } (rehearsal m c)).map
      (Finish.filtered (logFilter m.environment a.verbosity)) := by
  rw [run_of_configuration ha hc, runConfiguration_of_dryRun hd]

lemma exists_run_of_unready {cause : Unready} (hc : configure m argv = .error cause) :
    ∃ f, run m argv = some f := by
  cases ha : Arguments.parse argv m.environment with
  | error halt => exact ⟨_, run_of_halt ha⟩
  | ok a =>
    cases hof : Configuration.ofArguments m.files a with
    | error fault => exact ⟨_, run_of_fault ha hof⟩
    | ok c =>
      rw [configure_of_parsed ha, hof] at hc
      cases hc

lemma exists_finish_rehearsal (m : Machine) (c : Configuration) (client : Remote.Client) :
    ∃ f, finish c client (rehearsal m c) = some f := by
  rcases run_dryRun c.target c.commands .never { out := m.out } with ⟨_, _, -, hr⟩ | ⟨hr, -⟩ <;>
    exact ⟨_, by rw [finish, rehearsal, hr]; rfl⟩

lemma run_of_configured (hd : ∀ a, Arguments.parse argv m.environment = .ok a → a.dryRun) :
    ∃ f, run m argv = some f ∧ f.client = { files := m.files } ∧
      ∀ network signal t,
        configure { m with network, signal, files := t } argv = configure m argv →
        run { m with network, signal, files := t } argv =
          some { f with client := { files := t } } := by
  cases hc : configure m argv with
  | error cause =>
    obtain ⟨f, hf⟩ := exists_run_of_unready hc
    exact ⟨f, hf, client_of_unready hf hc, fun _ _ _ hc' => run_of_unready hf hc hc'⟩
  | ok c =>
    obtain ⟨a, ha, hof⟩ := ofArguments_of_configure hc
    have hdry : c.dryRun := (dryRun_of_ofArguments hof).trans (hd a ha)
    obtain ⟨g, hg⟩ := exists_finish_rehearsal m c { files := m.files }
    have hclient : g.client = { files := m.files } := by
      obtain ⟨result, -, rfl⟩ := Option.map_eq_some_iff.1 hg
      rfl
    refine ⟨Finish.filtered (logFilter m.environment a.verbosity) g, ?_, hclient, ?_⟩
    · rw [run_of_dryRun ha hof hdry, hg]
      rfl
    · intro network signal t hc'
      obtain ⟨a', ha', hof'⟩ := ofArguments_of_configure hc'
      cases ha.symm.trans ha'
      rw [run_of_dryRun ha' hof' hdry, finish_client c { files := m.files }]
      change Option.map _ (Option.map _ (finish c _ (rehearsal m c))) = _
      rw [hg]
      rfl

lemma stdout_of_dryRun {f : Finish} (hc : configure m argv = .ok c) (hd : c.dryRun)
    (hf : run m argv = some f) :
    (f.code = 0 ∧ f.stdout = c.commands.flatMap dryOutput) ∨ (f.code = 1 ∧ m.out ≠ .endless) := by
  obtain ⟨a, ha, hof⟩ := ofArguments_of_configure hc
  rw [run_of_dryRun ha hof hd] at hf
  obtain ⟨g, hg, rfl⟩ := Option.map_eq_some_iff.1 hf
  rcases run_dryRun c.target c.commands .never { out := m.out } with
    ⟨os, fault, hfault, hr⟩ | ⟨hr, hwritten⟩
  · refine .inr ?_
    rw [finish, rehearsal, hr] at hg
    cases hg
    refine ⟨rfl, fun hout => ?_⟩
    rw [hout, Sinks.performAll_endless] at hfault
    cases hfault
  · refine .inl ?_
    rw [finish, rehearsal, hr] at hg
    cases hg
    exact ⟨rfl, hwritten .out⟩

lemma outcome_of_real (hd : c.dryRun = false) : outcome m c = (execution m c).result := by
  simp only [outcome, hd]
  rfl

lemma asked_of_completed {results : List CommandResult} (hd : c.dryRun = false)
    (h : outcome m c = some (.ok ⟨results, .completed⟩)) :
    (execution m c).state.asked = c.commands := by
  rw [outcome_of_real hd] at h
  exact (run_asks (Remote.connector_asks m.network c.remote) c.commands (shutdown m)
    { out := m.out } { files := m.files }).completed results h

lemma configure_real {c' : Configuration} (hc : configure m argv = .ok c)
    (hc' : configure m (argv.filter (· ≠ Arguments.dryRunArgument)) = .ok c') :
    c' = { c with dryRun := false } := by
  obtain ⟨a, ha, hof⟩ := ofArguments_of_configure hc
  obtain ⟨given, hs⟩ := Arguments.spells_of_parse ha
  obtain ⟨a', ha', hof'⟩ := ofArguments_of_configure hc'
  cases (Arguments.parse_real hs ha).symm.trans ha'
  exact Configuration.ofArguments_real hof hof'

/-- A dry run is, behind its announcement, the run over a session that answers every command with
its text, and with writers that never fail it prints every command with that answer. A program that
is asked for one meets no server, reads nothing but what it is configured from and leaves its files
alone. Where its line without the argument leads to a configuration too, this is the same but for
the argument, and a real run of it that completes asks for the commands that the dry run prints. -/
theorem dry_run_mirrors_real_run :
    (∀ target commands shutdown sinks,
      let e := Run.run (dryRun target) commands shutdown sinks ()
      let e' := Run.run (scripted .session none) commands shutdown sinks (commands.map dryResponse)
      (e'.result = e.result ∧
        ∃ es, e'.events = .connect :: es ∧ e.events = .connect :: notConnecting target :: es) ∧
      ((∀ os, (sinks.performAll os).fault = none) →
        e.result = some (.ok ⟨commands.map dryResult, .completed⟩) ∧
          Event.written .out e.events = commands.flatMap dryOutput ∧
          Event.written .err e.events = [])) ∧
    ∀ m argv, Arguments.dryRunArgument ∈ argv →
      ∃ f, run m argv = some f ∧ f.client = { files := m.files } ∧
        (∀ network signal t,
          configure { m with network, signal, files := t } argv = configure m argv →
          run { m with network, signal, files := t } argv =
            some { f with client := { files := t } }) ∧
        (∀ hidden t, FileTree.AlikeBut hidden m.files t →
          (∀ a, Arguments.parse argv m.environment = .ok a →
            ∀ path ∈ Configuration.sources m.files a, m.files.Misses path hidden) →
          configure { m with files := t } argv = configure m argv) ∧
        ∀ c, configure m argv = .ok c →
          ((f.code = 0 ∧ f.stdout = c.commands.flatMap dryOutput) ∨
            (f.code = 1 ∧ m.out ≠ .endless)) ∧
          ∀ c', configure m (argv.filter (· ≠ Arguments.dryRunArgument)) = .ok c' →
            c' = { c with dryRun := false } ∧
            ∀ network signal results,
              outcome { m with network, signal } c' = some (.ok ⟨results, .completed⟩) →
              (execution { m with network, signal } c').state.asked = c.commands := by
  refine ⟨fun target commands shutdown sinks => ⟨run_dryResponse .., fun hsinks => ?_⟩, ?_⟩
  · rcases run_dryRun target commands shutdown sinks with ⟨os, fault, hf, -⟩ | ⟨hr, hwritten⟩
    · cases (hsinks os).symm.trans hf
    · exact ⟨hr, hwritten .out, hwritten .err⟩
  · intro m argv hargv
    have hd : ∀ a, Arguments.parse argv m.environment = .ok a → a.dryRun :=
      fun a ha => Arguments.dryRun_of_parse ha hargv
    obtain ⟨f, hf, hclient, hsame⟩ := run_of_configured hd
    refine ⟨f, hf, hclient, hsame, fun hidden t ht hmiss => configure_of_alike ht hmiss, ?_⟩
    intro c hc
    obtain ⟨a, ha, hof⟩ := ofArguments_of_configure hc
    refine ⟨stdout_of_dryRun hc ((dryRun_of_ofArguments hof).trans (hd a ha)) hf, ?_⟩
    intro c' hc'
    obtain rfl := configure_real hc hc'
    exact ⟨rfl, fun network signal results h => asked_of_completed rfl h⟩

theorem dry_run_mirrors_real_run_twice :
    let s : Remote.Server :=
      { key := ⟨.ed25519 (List.replicate 32 1), ""⟩
        scripts := List.replicate 2 [.message (.status 0), .message .close] }
    let network : Remote.Network := fun _ _ => .server s
    let place := [Utf8.encode "known"]
    let m : Machine :=
      { files := { nodes := [(place, .file [])] }, environment := [], network := .isolated }
    let t := m.files.set place (.file [10])
    let argv := ["--password=a", "--dry-run", "--host-key-policy=accept-any", "-cuptime",
      "-cls"].map Utf8.encode
    (Run.run (dryRun "a") ["ls"] .never {} ()).result =
        some (.ok ⟨[dryResult "ls"], .completed⟩) ∧
      ∃ f c, run m argv = some f ∧ f.stdout = ["uptime", "ls"].flatMap dryOutput ∧
        run { m with network, files := t } argv = some { f with client := { files := t } } ∧
        configure m (argv.filter (· ≠ Arguments.dryRunArgument)) = .ok c ∧
        (execution { m with network } c).state.asked = ["uptime", "ls"] := by
  intro s network place m t argv
  let c : Configuration :=
    { host := "192.168.1.2", port := 22, user := "root", password := "a", timeout := ⟨10000⟩
      commandTimeout := none, commands := ["uptime", "ls"], policy := .acceptAny, dryRun := true }
  have hc : configure m argv = .ok c := by decide +kernel
  have hc' : configure m (argv.filter (· ≠ Arguments.dryRunArgument)) =
      .ok { c with dryRun := false } := by decide +kernel
  have hreal : outcome { m with network } { c with dryRun := false } =
      some (.ok ⟨[⟨"uptime", "", "", 0⟩, ⟨"ls", "", "", 0⟩], .completed⟩) := by decide +kernel
  have hplace : m.files.node? place = some (.file []) := by decide +kernel
  have hsources : (Arguments.parse argv m.environment).map (Configuration.sources m.files) =
      .ok [] := by decide +kernel
  obtain ⟨hrun, hprogram⟩ := dry_run_mirrors_real_run
  obtain ⟨f, hf, -, hsame, halike, hconfigured⟩ := hprogram m argv (by decide +kernel)
  obtain ⟨hstdout, hreally⟩ := hconfigured c hc
  obtain ⟨-, hasked⟩ := hreally _ hc'
  have ht : configure { m with files := t } argv = configure m argv := by
    refine halike {place} t (.of_file hplace _) fun a ha path hpath => ?_
    rw [ha] at hsources
    cases (Except.ok.inj hsources) ▸ hpath
  refine ⟨((hrun "a" ["ls"] .never {}).2 fun os => by rw [Sinks.performAll_endless]).1, f, _, hf,
    ?_, hsame network none t ht, hc', hasked network none _ hreal⟩
  rcases hstdout with ⟨-, h⟩ | ⟨-, h⟩
  · exact h
  · exact absurd rfl h

end RemoteBatch.Program
