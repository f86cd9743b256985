import RemoteBatch.CommandFile
import RemoteBatch.Remote.Server
import RemoteBatch.RunError
import RemoteBatch.Settings.Arguments
import RemoteBatch.Settings.FileSettings

/-!
The configuration of a run: what is given on the command line or in the environment comes first,
then the settings file, then the defaults. The checks come in a fixed order, and the first stage
that fails decides.
-/

namespace RemoteBatch.Settings

structure Configuration where
  host : String
  port : Nat
  user : String
  password : String
  timeout : Duration
  commandTimeout : Option Duration
  commands : List String
  policy : HostKey.Policy
  dryRun : Bool
  deriving DecidableEq, Repr

namespace Configuration

def defaultHost : String := "192.168.1.2"

def defaultPort : Nat := 22

def defaultUser : String := "root"

def defaultTimeout : Nat := 10

inductive Problem
  | hostBlank
  | userBlank
  | timeoutZero
  | noFingerprint
  deriving DecidableEq, Repr

def Problem.message : Problem → String
  | .hostBlank => "Host cannot be empty"
  | .userBlank => "User cannot be empty"
  | .timeoutZero => "Timeout must be at least 1 second"
  | .noFingerprint => "reject-unknown host key policy needs at least one --host-key-fingerprint"

inductive Fault
  | file (fault : FileSettings.Fault)
  | commandFile (fault : CommandFile.Fault)
  | commands (fault : Command.Fault)
  | problems (found : List Problem)
  | noPassword
  deriving DecidableEq, Repr

def Fault.error : Fault → RunError
  | .file fault => .configFile fault.message
  | .commandFile fault => .config fault.message
  | .commands fault => .config fault.message
  | .problems found => .config ("\n".intercalate (found.map Problem.message))
  | .noPassword =>
    .config "Missing password (use --password, SSH_RUNNER_PASSWORD or the config file)"

def policyOf (a : Arguments) : HostKey.Policy :=
  match a.hostKeyPolicy with
  | .acceptAny => .acceptAny
  | .trustOnFirstUse => .trustOnFirstUse a.knownHosts
  | .strictKnownHosts => .strictKnownHosts a.knownHosts
  | .rejectUnknown => .rejectUnknown a.hostKeyFingerprints

def isBlankText (s : String) : Bool := Text.trim s = ""

def problems (host user : String) (timeout : Nat) (policy : HostKey.Policy) : List Problem :=
  (if isBlankText host then [.hostBlank] else []) ++
    (if isBlankText user then [.userBlank] else []) ++
    (if timeout = 0 then [.timeoutZero] else []) ++
    (if policy = .rejectUnknown [] then [.noFingerprint] else [])

def passwordOf (a : Arguments) (file : FileSettings) : Option String :=
  (a.password.filter (· ≠ "")).or file.password

def fileSettings (t : FileTree) (a : Arguments) : Except Fault FileSettings :=
  match a.config with
  | none => .ok {}
  | some path => (FileSettings.load t path).mapError .file

def commandsOf (t : FileTree) (a : Arguments) : Except Fault (List String) :=
  match a.commandsFile with
  | some path => (CommandFile.read t path).mapError .commandFile
  | none => (Command.sanitizeAll a.commands).mapError .commands

def merge (a : Arguments) (file : FileSettings) (commands : List String) :
    Except Fault Configuration :=
  let host := (a.host.or file.host).getD defaultHost
  let user := (a.user.or file.user).getD defaultUser
  let timeout := (a.timeout.or file.timeout).getD defaultTimeout
  let policy := policyOf a
  match problems host user timeout policy with
  | p :: ps => .error (.problems (p :: ps))
  | [] =>
    match passwordOf a file, a.dryRun with
    | none, false => .error .noPassword
    | password, dryRun =>
      .ok
        { host, user, policy, commands, dryRun
          port := (a.port.or file.port).getD defaultPort
          password := password.getD ""
          timeout := .ofSeconds timeout
          commandTimeout := (a.commandTimeout.filter (· > 0)).map .ofSeconds }

def ofArguments (t : FileTree) (a : Arguments) : Except Fault Configuration := do
  let file ← fileSettings t a
  let commands ← commandsOf t a
  merge a file commands

def target (c : Configuration) : String := s!"{c.user}@{c.host}:{c.port}"

def remote (c : Configuration) : Remote.Target where
  host := c.host
  username := c.user
  password := c.password
  port := c.port
  connectTimeout := c.timeout
  commandTimeout := c.commandTimeout
  policy := c.policy

end Configuration

end RemoteBatch.Settings
