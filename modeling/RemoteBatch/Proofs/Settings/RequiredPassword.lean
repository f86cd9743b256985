import RemoteBatch.Proofs.Settings.Precedence
import RemoteBatch.Proofs.Settings.Stages

/-! The password that a real run needs. An empty one that is given counts as none, an empty one that
the settings file holds does not. -/

namespace RemoteBatch.Settings.Configuration

open Arguments (readText)

variable {argv : List Bytes} {env : Environment} {t : FileTree} {a : Arguments} {s : Sources}
  {file : FileSettings} {c : Configuration}

lemma given_eq_none_iff (ha : Arguments.parse argv env = .ok a) (hs : Sources.Of argv env t s) :
    Setting.password.option s = none ↔ a.password = none ∨ a.password = some "" := by
  obtain ⟨hspelled, rfl, -⟩ := hs
  have hread : (Setting.password.option s).map readText = (a.password.filter (· ≠ "")).map .ok :=
    filter_password (Arguments.Place.password.field_of_parse hspelled ha)
  rw [← Option.map_eq_none_iff (f := readText), hread, Option.map_eq_none_iff, filter_eq_none_iff]

lemma stored_eq (ha : Arguments.parse argv env = .ok a) (hs : Sources.Of argv env t s)
    (hf : fileSettings t a = .ok file) : KeyValue.first? s.pairs "password" = file.password := by
  obtain ⟨hspelled, rfl, hpairs⟩ := hs
  rw [Sources.option, ← config_of_parse hspelled ha] at hpairs
  exact (foundIn_of_holds hf hpairs).password

lemma password_eq_empty_of_ok (ha : Arguments.parse argv env = .ok a)
    (hs : Sources.Of argv env t s) (hdry : a.dryRun = false) (hc : ofArguments t a = .ok c) :
    c.password = "" ↔
      Setting.password.option s = none ∧ KeyValue.first? s.pairs "password" = some "" := by
  obtain ⟨file, commands, hf, -, hm⟩ := ofArguments_eq_ok_iff.1 hc
  obtain ⟨-, hp, rfl⟩ := merge_eq_ok_iff.1 hm
  rw [hdry, Bool.false_eq_true, or_false] at hp
  rw [given_eq_none_iff ha hs, ← filter_eq_none_iff, stored_eq ha hs hf]
  change (passwordOf a file).getD "" = "" ↔ _
  rw [passwordOf] at hp ⊢
  cases hg : a.password.filter (· ≠ "") with
  | some p =>
    have hne : p ≠ "" := by simpa using (Option.filter_eq_some_iff.1 hg).2
    simp [hne]
  | none =>
    rw [hg, Option.none_or] at hp
    obtain ⟨p, hstored⟩ := Option.isSome_iff_exists.1 hp
    simp [hstored]

lemma failsFirst_of_noPassword (h : ofArguments t a = .error .noPassword) :
    FailsFirst t a .password (Fault.error .noPassword) := by
  rcases ofArguments_eq_error_iff.1 h with hf | ⟨file, hf, hc | ⟨commands, hc, hm⟩⟩
  · rw [fileSettings] at hf
    split at hf
    · cases hf
    · obtain ⟨-, -, ⟨⟩⟩ := mapError_eq_error.1 hf
  · rw [commandsOf] at hc
    split at hc <;> obtain ⟨-, -, ⟨⟩⟩ := mapError_eq_error.1 hc
  · rcases merge_eq_error_iff.1 hm with ⟨-, ⟨⟩⟩ | ⟨hv, hdry, hp, -⟩
    exact failsFirst_password hf hc hv hdry hp

lemma noPassword_iff (ha : Arguments.parse argv env = .ok a) (hs : Sources.Of argv env t s)
    (hdry : a.dryRun = false) :
    ofArguments t a = .error .noPassword ↔
      Setting.password.option s = none ∧ KeyValue.first? s.pairs "password" = none ∧
        ∀ earlier ∈ Stage.password.ahead, ∀ e, ¬Fails t a earlier e := by
  constructor
  · intro h
    obtain ⟨hfails, hahead⟩ := failsFirst_of_noPassword h
    cases hfails with
    | password hf _ hgiven hstored =>
      exact ⟨(given_eq_none_iff ha hs).2 hgiven, (stored_eq ha hs hf).trans hstored, hahead⟩
  · rintro ⟨hgiven, hstored, hahead⟩
    obtain ⟨file, hf⟩ := exists_ok fails_settingsFile_iff.2 (hahead .settingsFile (by decide))
    rw [given_eq_none_iff ha hs] at hgiven
    rw [stored_eq ha hs hf] at hstored
    exact noPassword_of_failsFirst ⟨.password hf hdry hgiven hstored, hahead⟩

/-- A real run has an empty password just when none but an empty one is given and the settings file
holds an empty one. It lacks one, and says so if no earlier stage fails, just when none but an empty
one is given and the file holds none at all. -/
theorem password_eq_empty_iff (argv : List Bytes) (env : Environment) (t : FileTree)
    (a : Arguments) (s : Sources) (ha : Arguments.parse argv env = .ok a)
    (hs : Sources.Of argv env t s) (hdry : a.dryRun = false) :
    (∀ c, ofArguments t a = .ok c → (c.password = "" ↔
      Setting.password.option s = none ∧ KeyValue.first? s.pairs "password" = some "")) ∧
    (ofArguments t a = .error .noPassword ↔
      Setting.password.option s = none ∧ KeyValue.first? s.pairs "password" = none ∧
        ∀ earlier ∈ Stage.password.ahead, ∀ e, ¬Fails t a earlier e) :=
  ⟨fun _ hc => password_eq_empty_of_ok ha hs hdry hc, noPassword_iff ha hs hdry⟩

theorem password_eq_empty_stored :
    let t : FileTree := { nodes := [([Utf8.encode "conf"], .file (Utf8.encode "password=\n"))] }
    let argv := ["--password=", "--config=conf", "-c", "uptime"].map Utf8.encode
    ∃ a c, Arguments.parse argv [] = .ok a ∧ a.dryRun = false ∧ ofArguments t a = .ok c ∧
      c.password = "" := by
  intro t argv
  have ha : Arguments.parse argv [] = .ok
      { password := some "", commands := ["uptime"], config := some (Utf8.encode "conf") } := by
    decide +kernel
  let c : Configuration :=
    { host := "192.168.1.2", port := 22, user := "root", password := "", timeout := .ofSeconds 10
      commandTimeout := none, commands := ["uptime"], policy := .strictKnownHosts none
      dryRun := false }
  have hc : ofArguments t
      { password := some "", commands := ["uptime"], config := some (Utf8.encode "conf") } =
        .ok c := by
    decide +kernel
  let s : Sources :=
    { given := [(.password, []), (.config, Utf8.encode "conf"), (.command, Utf8.encode "uptime")]
      environment := []
      pairs := [("password".toList, [])] }
  have hs : Sources.Of argv [] t s := by
    refine ⟨?_, rfl, Utf8.encode "/conf", Utf8.encode "password=\n", by decide +kernel,
      by decide +kernel, by decide +kernel⟩
    have hargv : argv =
        [Utf8.encode (Flag.password.dashed ++ "=") ++ []] ++
        ([Utf8.encode (Flag.config.dashed ++ "=") ++ Utf8.encode "conf"] ++
        ([Arguments.cluster 0 [Arguments.commandLetter], Utf8.encode "uptime"] ++ [])) := by
      decide +kernel
    rw [hargv]
    exact .append (.attached rfl _) (.append (.attached rfl _)
      (.append (.lettersSeparate 0 (.inr (by decide +kernel))) .nil))
  have hempty := (password_eq_empty_iff argv [] t _ s ha hs rfl).1 c hc
  exact ⟨_, c, ha, rfl, hc, hempty.2 ⟨by decide +kernel, by decide +kernel⟩⟩

/-- The settings file holds the password of a real run, and that is empty. -/
theorem not_password_required :
    ¬∀ (argv : List Bytes) (env : Environment) (t : FileTree) (a : Arguments) (c : Configuration),
      Arguments.parse argv env = .ok a → ofArguments t a = .ok c → a.dryRun = false →
        c.password ≠ "" := by
  intro h
  let t : FileTree := { nodes := [([Utf8.encode "r.conf"], .file (Utf8.encode "password=\n"))] }
  have ha : Arguments.parse (["--config", "r.conf", "-c", "uptime"].map Utf8.encode) [] =
      .ok { commands := ["uptime"], config := some (Utf8.encode "r.conf") } := by decide +kernel
  let c : Configuration :=
    { host := "192.168.1.2", port := 22, user := "root", password := "", timeout := .ofSeconds 10
      commandTimeout := none, commands := ["uptime"], policy := .strictKnownHosts none
      dryRun := false }
  have hc : ofArguments t { commands := ["uptime"], config := some (Utf8.encode "r.conf") } =
      .ok c := by decide +kernel
  exact h _ _ t _ c ha hc rfl rfl

end RemoteBatch.Settings.Configuration
