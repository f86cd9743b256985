/-!
Log entries: what the program tells about its work, apart from its results.
-/

namespace RemoteBatch

inductive Level
  | error
  | warn
  | info
  | debug
  | trace
  deriving DecidableEq, Repr

namespace Level

def rank : Level → Nat
  | .error => 1
  | .warn => 2
  | .info => 3
  | .debug => 4
  | .trace => 5

def name : Level → String
  | .error => "ERROR"
  | .warn => "WARN"
  | .info => "INFO"
  | .debug => "DEBUG"
  | .trace => "TRACE"

end Level

inductive Topic
  | program
  | run
  | dryRun
  | connection
  | command
  | hostKey
  deriving DecidableEq, Repr

def Topic.path : Topic → String
  | program => "ssh_runner"
  | run => "ssh_runner::runner"
  | dryRun => "ssh_runner::dry_run"
  | connection => "ssh_runner::ssh::connection"
  | command => "ssh_runner::ssh::command"
  | hostKey => "ssh_runner::ssh::host_key"

structure LogEntry where
  level : Level
  topic : Topic
  text : String
  deriving DecidableEq, Repr

namespace Topic

def error (t : Topic) (text : String) : LogEntry := ⟨.error, t, text⟩
def warn (t : Topic) (text : String) : LogEntry := ⟨.warn, t, text⟩
def info (t : Topic) (text : String) : LogEntry := ⟨.info, t, text⟩
def debug (t : Topic) (text : String) : LogEntry := ⟨.debug, t, text⟩

end Topic

namespace LogEntry

def escapeChar (c : Char) : List Char :=
  let n := c.toNat
  if n = 0x07 || n = 0x08 || n = 0x0C || n = 0x1B || n = 0x7F then
    ['\\', 'x', Nat.digitChar (n / 16), Nat.digitChar (n % 16)]
  else if 0x80 ≤ n && n ≤ 0x9F then
    ['\\', 'u', '\x7b', Nat.digitChar (n / 16), Nat.digitChar (n % 16), '\x7d']
  else [c]

def line (e : LogEntry) : String :=
  s!"{e.level.name} {String.ofList (e.text.toList.flatMap escapeChar)}\n"

end LogEntry

end RemoteBatch
