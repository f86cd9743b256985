import RemoteBatch.Settings.Arguments

/-!
What the program tells about itself: its version, and its options in a short and a long form. Both
forms show the current value of an option's environment variable, that of the password excepted. Help
is put together with the names of options in bold face and then written as plain text, so that a
sequence left open in a value ends at the next name.
-/

namespace RemoteBatch.Settings

def programName : String := "ssh-runner"

def programVersion : String := "0.1.0"

def versionText : String := s!"{programName} {programVersion}\n"

namespace Help

def description : Flag → String
  | .host => "SSH host to connect to [default: 192.168.1.2]"
  | .port => "SSH port [default: 22]"
  | .user => "SSH username [default: root]"
  | .password => "SSH password"
  | .timeout => "Connection timeout in seconds [default: 10]"
  | .commandTimeout => "Per-command timeout in seconds (unset = wait for the command)"
  | .command => "Command to run; repeat for several, they run in the given order"
  | .commandsFile => "File with one command per line (# starts a comment)"
  | .config => "key=value config file (router_ip, router_port, username, password, timeout)"
  | .hostKeyPolicy => "How the server host key is verified"
  | .hostKeyFingerprint => "Allowed SHA-256 host key fingerprint for reject-unknown; repeatable"
  | .knownHosts => "known_hosts file [default: ~/.ssh/known_hosts]"
  | .dryRun => "Print the commands instead of connecting and running them"
  | .verbose => "Increase log verbosity (-v info, -vv debug)"
  | .help => "Print help"
  | .version => "Print version"

def summary (long : Bool) (flag : Flag) : String :=
  match flag with
  | .help =>
    description flag ++
      if long then " (see a summary with '-h')" else " (see more with '--help')"
  | _ => description flag

def bold (s : String) : String := "\x1b[1m" ++ s ++ "\x1b[0m"

def header (flag : Flag) : String :=
  (match flag.short? with
    | some letter => "  " ++ bold s!"-{letter}" ++ ", "
    | none => "      ") ++
    bold flag.dashed ++ flag.shownValue

def variableNote (env : Environment) (flag : Flag) : List String :=
  match flag.envName? with
  | none => []
  | some name =>
    if flag = .password then [s!"[env: {name}]"]
    else
      let value := Utf8.decodeLossy ((env.lookup name).getD [])
      [s!"[env: {name}={value}]"]

def defaultNote (flag : Flag) : List String :=
  if flag = .hostKeyPolicy then [s!"[default: {PolicyMode.standard.name}]"] else []

def choices (flag : Flag) : List PolicyMode := if flag = .hostKeyPolicy then PolicyMode.all else []

def choicesNote (flag : Flag) : List String :=
  if choices flag = [] then []
  else ["[possible values: " ++ ", ".intercalate ((choices flag).map PolicyMode.name) ++ "]"]

def margin : String := "          "

def indent (s : String) : String :=
  String.ofList (s.toList.flatMap fun c => if c = '\n' then '\n' :: margin.toList else [c])

def shortEntry (env : Environment) (flag : Flag) : String :=
  let notes := variableNote env flag ++ defaultNote flag ++ choicesNote flag
  header flag ++ "\n" ++ margin ++ indent (" ".intercalate (summary false flag :: notes)) ++ "\n"

def choiceLine (width : Nat) (m : PolicyMode) : String :=
  let blanks := String.ofList (List.replicate (width - m.name.length) ' ')
  s!"{margin}- {m.name}: {blanks}{m.description}"

def choiceBlock (flag : Flag) : String :=
  let modes := choices flag
  let width := (modes.map (·.name.length)).foldl max 0
  if modes = [] then ""
  else "\n\n" ++ margin ++ "Possible values:\n" ++ "\n".intercalate (modes.map (choiceLine width))

def longEntry (env : Environment) (flag : Flag) : String :=
  let notes := variableNote env flag ++ defaultNote flag
  let note := if notes = [] then "" else indent ("\n\n" ++ "\n".intercalate notes)
  header flag ++ "\n" ++ margin ++ summary true flag ++ choiceBlock flag ++ note ++ "\n"

def opening : String :=
  "Run an ordered list of shell commands on a remote host over one SSH session\n\n" ++
    bold "Usage:" ++ " " ++ bold programName ++ " [OPTIONS]\n\n" ++ bold "Options:" ++ "\n"

def text (m : Text.Medium) (env : Environment) (long : Bool) : String :=
  let entries :=
    if long then "\n".intercalate (Flag.all.map (longEntry env))
    else "".intercalate (Flag.all.map (shortEntry env))
  Text.plain m (opening ++ entries)

end Help

end RemoteBatch.Settings
