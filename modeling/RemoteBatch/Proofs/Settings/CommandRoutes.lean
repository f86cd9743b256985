import RemoteBatch.Proofs.Command.Listing
import RemoteBatch.Proofs.Settings.Options

/-! The two ways by which a run gets its commands. What the lines of a file list is accepted, and
the same commands given one by one configure the same run. -/

namespace RemoteBatch

namespace Settings.Arguments

def valuesOf (flag : Flag) (given : Given) : List Bytes :=
  (given.filter (·.1 = flag)).map Prod.snd

variable {argv : List Bytes} {given : Given} {env : Environment} {a b : Arguments} {flag : Flag}
  {raw : Bytes}

@[simp] lemma valuesOf_nil (flag : Flag) : valuesOf flag [] = [] := rfl

lemma valuesOf_cons (flag : Flag) (p : Flag × Bytes) (given : Given) :
    valuesOf flag (p :: given) = (if p.1 = flag then [p.2] else []) ++ valuesOf flag given := by
  by_cases hp : p.1 = flag <;> simp [valuesOf, hp]

lemma mem_of_valuesOf (h : valuesOf flag given ≠ []) : flag ∈ given.map Prod.fst := by
  obtain ⟨raw, hraw⟩ := List.exists_mem_of_ne_nil _ h
  obtain ⟨p, hp, -⟩ := List.mem_map.1 hraw
  obtain ⟨hmem, hflag⟩ := List.mem_filter.1 hp
  exact List.mem_map.2 ⟨p, hmem, by simpa using hflag⟩

lemma valuesOf_append_substitutes (h : flag.envName? = none) (given : Given) (env : Environment)
    (names flags : List Flag) :
    valuesOf flag (given ++ substitutes env names flags) = valuesOf flag given := by
  have hnone : (substitutes env names flags).filter (·.1 = flag) = [] := by
    rw [List.filter_eq_nil_iff]
    intro p hp
    obtain ⟨other, -, hother⟩ := List.mem_filterMap.1 hp
    split at hother
    · cases hother
    · obtain ⟨value, hvalue, rfl⟩ := Option.map_eq_some_iff.1 hother
      simp only [decide_eq_true_eq]
      rintro rfl
      rw [substitute?, h] at hvalue
      cases hvalue
  rw [valuesOf, List.filter_append, hnone, List.append_nil, valuesOf]

lemma commands_of_put (h : a.put flag raw = .ok b) :
    b.commands.map Utf8.encode =
      a.commands.map Utf8.encode ++ if flag = .command then [raw] else [] := by
  cases flag with
  | command =>
    obtain ⟨command, hcommand, h⟩ := bind_eq_ok.1 h
    cases h
    simp [encode_of_readText hcommand]
  | dryRun | verbose | help | version =>
    cases h
    simp
  | _ =>
    obtain ⟨v, -, h⟩ := bind_eq_ok.1 h
    cases h
    simp

lemma commandsFile_of_put (h : a.put flag raw = .ok b) :
    b.commandsFile = if flag = .commandsFile then some raw else a.commandsFile := by
  cases flag with
  | commandsFile =>
    obtain ⟨path, hpath, h⟩ := bind_eq_ok.1 h
    cases h
    rw [eq_of_readPath hpath]
    rfl
  | dryRun | verbose | help | version =>
    cases h
    rfl
  | _ =>
    obtain ⟨v, -, h⟩ := bind_eq_ok.1 h
    cases h
    rfl

namespace Reading

variable {r s : Reading}

lemma commands_of_recordAll (h : r.recordAll given = .ok s) :
    s.arguments.commands.map Utf8.encode =
      r.arguments.commands.map Utf8.encode ++ valuesOf .command given := by
  induction given generalizing r with
  | nil =>
    cases h
    simp
  | cons first given ih =>
    obtain ⟨r₁, h₁, h⟩ := bind_eq_ok.1 h
    obtain ⟨-, a, ha, rfl⟩ := record_eq_ok_iff.1 h₁
    rw [ih h, commands_of_put ha, List.append_assoc, valuesOf_cons]

lemma commandsFile_of_recordAll (h : r.recordAll given = .ok s) :
    s.arguments.commandsFile =
      (valuesOf .commandsFile given).getLast?.or r.arguments.commandsFile := by
  induction given generalizing r with
  | nil =>
    cases h
    simp
  | cons first given ih =>
    obtain ⟨r₁, h₁, h⟩ := bind_eq_ok.1 h
    obtain ⟨-, a, ha, rfl⟩ := record_eq_ok_iff.1 h₁
    rw [ih h, commandsFile_of_put ha, valuesOf_cons, List.getLast?_append]
    split <;> simp

lemma not_both_of_conflict? (h : r.conflict? = none) :
    ¬(.command ∈ r.given ∧ .commandsFile ∈ r.given) := by
  rintro ⟨hcommand, hfile⟩
  simp only [conflict?] at h
  split at h
  next hnone =>
    rw [List.filter_eq_nil_iff] at hnone
    exact hnone _ hcommand (by decide)
  next first rest hfirst =>
    rw [Option.map_eq_none_iff, List.find?_eq_none] at h
    have hsame {flag : Flag} (hmem : flag ∈ r.given)
        (hflag : flag = .command || flag = .commandsFile) : flag = first := by
      have hmem' : flag ∈ r.given.filter fun f => f = .command || f = .commandsFile :=
        List.mem_filter.2 ⟨hmem, hflag⟩
      rw [hfirst] at hmem'
      rcases List.mem_cons.1 hmem' with rfl | hrest
      · rfl
      · simpa using h flag hrest
    cases (hsame hcommand (by decide)).trans (hsame hfile (by decide)).symm

end Reading

lemma commands_of_parse (hs : Spells argv given) (h : parse argv env = .ok a) :
    a.commands.map Utf8.encode = valuesOf .command given ∧
      a.commandsFile = (valuesOf .commandsFile given).getLast? := by
  obtain ⟨r, hr, -, rfl⟩ := (parse_iff hs).1 h
  have hcommands := Reading.commands_of_recordAll hr
  have hfile := Reading.commandsFile_of_recordAll hr
  rw [valuesOf_append_substitutes rfl] at hcommands hfile
  exact ⟨hcommands, hfile.trans (Option.or_none)⟩

lemma commandsFile_of_command (hs : Spells argv given) (h : parse argv env = .ok a)
    (hc : valuesOf .command given ≠ []) : a.commandsFile = none := by
  rw [(commands_of_parse hs h).2, List.getLast?_eq_none_iff]
  by_contra hf
  obtain ⟨r, hr, hconflict, -⟩ := (parse_iff hs).1 h
  have hgiven := Reading.given_of_recordAll hr
  rw [List.map_append] at hgiven
  refine Reading.not_both_of_conflict? hconflict ⟨?_, ?_⟩ <;> rw [hgiven]
  · exact List.mem_append_right _ (List.mem_append_left _ (mem_of_valuesOf hc))
  · exact List.mem_append_right _ (List.mem_append_left _ (mem_of_valuesOf hf))

end Settings.Arguments

namespace Settings.Configuration

variable {t : FileTree} {a : Arguments} {c : Configuration} {commands : List String} {p : Path}

lemma commandsOf_file (h : a.commandsFile = some p) :
    commandsOf t a = (CommandFile.read t p).mapError .commandFile := by
  rw [commandsOf, h]

lemma commandsOf_options (h : a.commandsFile = none) :
    commandsOf t a = (Command.sanitizeAll a.commands).mapError .commands := by
  rw [commandsOf, h]

lemma commands_of_ofArguments (h : ofArguments t a = .ok c) (hc : commandsOf t a = .ok commands) :
    c.commands = commands := by
  obtain ⟨file, commands', -, hcommands, hm⟩ := ofArguments_eq_ok_iff.1 h
  obtain ⟨-, -, rfl⟩ := merge_eq_ok_iff.1 hm
  cases hc.symm.trans hcommands
  rfl

lemma ofArguments_file (hread : CommandFile.read t p = .ok commands)
    (hsane : Command.sanitizeAll commands = .ok commands) (a : Arguments) :
    ofArguments t { a with commandsFile := some p } =
      ofArguments t { a with commandsFile := none, commands := commands } := by
  have hfile : commandsOf t { a with commandsFile := some p } = .ok commands := by
    rw [commandsOf_file rfl, hread]
    rfl
  have hoptions : commandsOf t { a with commandsFile := none, commands := commands } =
      .ok commands := by
    rw [commandsOf_options rfl, hsane]
    rfl
  simp only [ofArguments, hfile, hoptions, fileSettings, merge, policyOf, passwordOf]

lemma commandsOf_of_parse {argv : List Bytes} {env : Environment} {given : Given}
    (hs : Arguments.Spells argv given) (ha : Arguments.parse argv env = .ok a)
    (hread : CommandFile.read t p = .ok commands) (hne : commands ≠ [])
    (hsane : Command.sanitizeAll commands = .ok commands)
    (h : Arguments.valuesOf .commandsFile given = [p] ∨
      Arguments.valuesOf .command given = commands.map Utf8.encode) :
    commandsOf t a = .ok commands := by
  obtain ⟨hcommands, hfile⟩ := Arguments.commands_of_parse hs ha
  rcases h with h | h
  · have hp : a.commandsFile = some p := hfile.trans (by rw [h]; rfl)
    rw [commandsOf_file hp, hread]
    rfl
  · rw [h, (List.map_injective_iff.2 fun _ _ => Utf8.encode_inj).eq_iff] at hcommands
    have hvalues : Arguments.valuesOf .command given ≠ [] := by
      rw [h]
      simpa using hne
    rw [commandsOf_options (Arguments.commandsFile_of_command hs ha hvalues), hcommands, hsane]
    rfl

end Settings.Configuration

namespace CommandFile

open Command (Listable Lists Refused ofLine?)
open Settings (Configuration)
open Settings.Arguments (Spells cluster commandLetter parse valuesOf)
open Text (HasLines LineEnd written)

variable {t : FileTree} {p : Path} {text : String} {lines : List (List Char)}
  {commands : List String}

lemma read_of_hasLines (h : t.readText p = .ok text) (hl : HasLines text.toList lines) :
    read t p = (Command.sanitizeAll (lines.filterMap ofLine?)).mapError .commands := by
  simp only [read, h, ← Command.ofText_of_hasLines hl, Except.mapError, bind, Except.bind]

lemma read_eq_ok_iff (h : t.readText p = .ok text) (hl : HasLines text.toList lines) :
    read t p = .ok commands ↔
      commands ≠ [] ∧ (∀ command ∈ commands, Listable command) ∧ Lists lines commands := by
  rw [read_of_hasLines h hl, mapError_eq_ok, Command.sanitizeAll_filterMap_eq_ok_iff hl.notMem]

lemma read_eq_error_iff (h : t.readText p = .ok text) (hl : HasLines text.toList lines)
    {fault : Fault} :
    read t p = .error fault ↔ ∃ refused, Refused lines refused ∧ fault = .commands refused := by
  simp only [read_of_hasLines h hl, mapError_eq_error,
    Command.sanitizeAll_filterMap_eq_error_iff, eq_comm (a := fault)]

lemma read_written (hne : commands ≠ []) (hc : ∀ command ∈ commands, Listable command)
    {ls : List (List Char × LineEnd)} (hls : ls.map Prod.fst = commands.map String.toList)
    (h : t.readText p = .ok (String.ofList (written ls))) : read t p = .ok commands := by
  have hlines : ∀ l ∈ ls, '\n' ∉ l.1 := by
    rw [← List.forall_mem_map (f := Prod.fst) (P := fun line => '\n' ∉ line), hls,
      List.forall_mem_map]
    exact fun command hmem => (hc command hmem).oneLine
  have hl : HasLines (String.ofList (written ls)).toList (commands.map String.toList) := by
    rw [String.toList_ofList, ← hls]
    exact .ended hlines
  exact (read_eq_ok_iff h hl).2 ⟨hne, hc, Command.lists_toList commands⟩

/-- A text file has lines, and is read as the commands that these list, if there are any and each may
be sent; else it is refused, for the first NUL outside the comments or because it lists none. The same
commands are accepted one by one, written one on each line they are read again, and as options they
lead to the same configuration as the file. -/
theorem read_lists (t : FileTree) (p : Path) (text : String) (h : t.readText p = .ok text) :
    (∃ lines, HasLines text.toList lines) ∧
    ∀ lines, HasLines text.toList lines →
      (∀ commands, read t p = .ok commands ↔
        commands ≠ [] ∧ (∀ command ∈ commands, Listable command) ∧ Lists lines commands) ∧
      (∀ fault, read t p = .error fault ↔
        ∃ refused, Refused lines refused ∧ fault = .commands refused) ∧
      ∀ commands, read t p = .ok commands →
        Command.sanitizeAll commands = .ok commands ∧
        (∀ t' p' ls, ls.map Prod.fst = commands.map String.toList →
          t'.readText p' = .ok (String.ofList (written ls)) → read t' p' = .ok commands) ∧
        (∀ a : Settings.Arguments, Configuration.ofArguments t { a with commandsFile := some p } =
          Configuration.ofArguments t { a with commandsFile := none, commands := commands }) ∧
        ∀ argv env given a, Spells argv given → parse argv env = .ok a →
          valuesOf .commandsFile given = [p] ∨
            valuesOf .command given = commands.map Utf8.encode →
          Configuration.commandsOf t a = .ok commands ∧
            ∀ c, Configuration.ofArguments t a = .ok c → c.commands = commands := by
  refine ⟨Text.exists_hasLines _, fun lines hl => ⟨fun commands => read_eq_ok_iff h hl,
    fun fault => read_eq_error_iff h hl, fun commands hread => ?_⟩⟩
  obtain ⟨hne, hc, -⟩ := (read_eq_ok_iff h hl).1 hread
  have hsane := Command.sanitizeAll_of_sound hne fun command hmem => (hc command hmem).toSound
  refine ⟨hsane, fun t' p' ls hls h' => read_written hne hc hls h',
    Configuration.ofArguments_file hread hsane, fun argv env given a hs ha hgiven => ?_⟩
  have hcommands := Configuration.commandsOf_of_parse hs ha hread hne hsane hgiven
  exact ⟨hcommands, fun c hconf => Configuration.commands_of_ofArguments hconf hcommands⟩

theorem read_lists_commented :
    let text := "  # set up: a\x00b\r\n\tuptime \r\n\n ls -l /tmp\n#done"
    let name := Utf8.encode "commands"
    let t : FileTree := { nodes := [([name], .file (Utf8.encode text))] }
    let commands := ["uptime", "ls -l /tmp"]
    read t name = .ok commands ∧ Command.sanitizeAll commands = .ok commands ∧
      ∃ a a', parse
          (["-c", "uptime", "-c", "ls -l /tmp"].map Utf8.encode) [] = .ok a ∧
        parse (["--commands-file=commands"].map Utf8.encode) [] = .ok a' ∧
        Configuration.commandsOf t a = .ok commands ∧
        Configuration.commandsOf t a' = .ok commands := by
  intro text name t commands
  let ls : List (List Char × LineEnd) :=
    [("  # set up: a\x00b".toList, .carriageReturn), ("\tuptime ".toList, .carriageReturn),
      ([], .lineFeed), (" ls -l /tmp".toList, .lineFeed)]
  have htext : text.toList = written ls ++ "#done".toList := by decide +kernel
  have hl : HasLines text.toList (ls.map Prod.fst ++ ["#done".toList]) := by
    rw [htext]
    exact .unended (by decide +kernel) (by decide +kernel)
  have hcomment : Command.IsComment "#done".toList := by decide +kernel
  have hlists : Lists (ls.map Prod.fst ++ ["#done".toList]) commands :=
    .skip (.inr (by decide +kernel))
      (@Lists.command _ ['\t'] [' '] _ _ _ (by decide) (by decide) (by decide +kernel)
        (.skip (.inl (by decide))
          (@Lists.command _ [' '] [] _ _ _ (by decide) (by decide) (by decide +kernel)
            (.skip (.inr hcomment) .nil))))
  have hread : t.readText name = .ok text := by decide +kernel
  obtain ⟨hok, -, hways⟩ := (read_lists t name text hread).2 _ hl
  have hcommands := (hok commands).2 ⟨by decide, by decide +kernel, hlists⟩
  obtain ⟨hsane, -, -, hgiven⟩ := hways commands hcommands
  have hargv : ["-c", "uptime", "-c", "ls -l /tmp"].map Utf8.encode =
      [cluster 0 [commandLetter], Utf8.encode "uptime"] ++
      ([cluster 0 [commandLetter], Utf8.encode "ls -l /tmp"] ++ []) := by decide +kernel
  have hoptions : Spells (["-c", "uptime", "-c", "ls -l /tmp"].map Utf8.encode)
      ([(.command, Utf8.encode "uptime")] ++ ([(.command, Utf8.encode "ls -l /tmp")] ++ [])) := by
    rw [hargv]
    exact .append (.lettersSeparate 0 (.inr (by decide +kernel)))
      (.append (.lettersSeparate 0 (.inr (by decide +kernel))) .nil)
  have hargv' : ["--commands-file=commands"].map Utf8.encode =
      [Utf8.encode (Settings.Flag.commandsFile.dashed ++ "=") ++ name] ++ [] := by decide +kernel
  have hfile : Spells (["--commands-file=commands"].map Utf8.encode)
      ([(.commandsFile, name)] ++ []) := by
    rw [hargv']
    exact .append (.attached rfl name) .nil
  have ha : parse (["-c", "uptime", "-c", "ls -l /tmp"].map Utf8.encode) [] =
      .ok { commands := commands } := by decide +kernel
  have ha' : parse (["--commands-file=commands"].map Utf8.encode) [] =
      .ok { commandsFile := some name } := by decide +kernel
  exact ⟨hcommands, hsane, _, _, ha, ha',
    (hgiven _ _ _ _ hoptions ha (.inr (by decide +kernel))).1,
    (hgiven _ _ _ _ hfile ha' (.inl (by decide +kernel))).1⟩

end CommandFile

end RemoteBatch
