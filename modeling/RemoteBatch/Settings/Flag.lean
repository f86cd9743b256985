/-!
The options of the command line: how each is spelled, what value it takes, and the environment
variable that stands in for it.
-/

namespace RemoteBatch.Settings

inductive Flag
  | host
  | port
  | user
  | password
  | timeout
  | commandTimeout
  | command
  | commandsFile
  | config
  | hostKeyPolicy
  | hostKeyFingerprint
  | knownHosts
  | dryRun
  | verbose
  | help
  | version
  deriving DecidableEq, Repr

namespace Flag

def all : List Flag :=
  [host, port, user, password, timeout, commandTimeout, command, commandsFile, config,
    hostKeyPolicy, hostKeyFingerprint, knownHosts, dryRun, verbose, help, version]

def long : Flag → String
  | host => "host"
  | port => "port"
  | user => "user"
  | password => "password"
  | timeout => "timeout"
  | commandTimeout => "command-timeout"
  | command => "command"
  | commandsFile => "commands-file"
  | config => "config"
  | hostKeyPolicy => "host-key-policy"
  | hostKeyFingerprint => "host-key-fingerprint"
  | knownHosts => "known-hosts"
  | dryRun => "dry-run"
  | verbose => "verbose"
  | help => "help"
  | version => "version"

def short? : Flag → Option Char
  | command => some 'c'
  | verbose => some 'v'
  | help => some 'h'
  | version => some 'V'
  | _ => none

def valueName? : Flag → Option String
  | host => some "HOST"
  | port => some "PORT"
  | user => some "USER"
  | password => some "PASSWORD"
  | timeout => some "TIMEOUT"
  | commandTimeout => some "COMMAND_TIMEOUT"
  | command => some "COMMANDS"
  | commandsFile => some "COMMANDS_FILE"
  | config => some "CONFIG"
  | hostKeyPolicy => some "HOST_KEY_POLICY"
  | hostKeyFingerprint => some "HOST_KEY_FINGERPRINTS"
  | knownHosts => some "KNOWN_HOSTS"
  | dryRun | verbose | help | version => none

def takesValue (f : Flag) : Bool := f.valueName?.isSome

def envName? : Flag → Option String
  | host => some "SSH_RUNNER_HOST"
  | port => some "SSH_RUNNER_PORT"
  | user => some "SSH_RUNNER_USER"
  | password => some "SSH_RUNNER_PASSWORD"
  | timeout => some "SSH_RUNNER_TIMEOUT"
  | commandTimeout => some "SSH_RUNNER_COMMAND_TIMEOUT"
  | config => some "SSH_RUNNER_CONFIG"
  | hostKeyPolicy => some "SSH_RUNNER_HOST_KEY_POLICY"
  | knownHosts => some "SSH_RUNNER_KNOWN_HOSTS"
  | _ => none

def isRepeatable : Flag → Bool
  | command | hostKeyFingerprint | verbose => true
  | _ => false

def ofLong? (name : String) : Option Flag := all.find? (·.long = name)

def ofShort? (letter : Char) : Option Flag := all.find? (·.short? = some letter)

def shownValue (f : Flag) : String :=
  match f.valueName? with
  | some value => s!" <{value}>"
  | none => if f.isRepeatable then "..." else ""

def dashed (f : Flag) : String := "--" ++ f.long

def shown (f : Flag) : String := f.dashed ++ f.shownValue

end Flag

end RemoteBatch.Settings
