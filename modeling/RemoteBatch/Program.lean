import RemoteBatch.LogFilter
import RemoteBatch.Remote.Session
import RemoteBatch.Run.Connector
import RemoteBatch.Run.Runner
import RemoteBatch.Settings.Configuration
import RemoteBatch.Settings.Help

/-!
The program: from its arguments and the machine it runs on to its exit code, its output and the
state that it leaves.
-/

namespace RemoteBatch

open Run Settings

inductive Signal
  | interrupt
  | terminate
  deriving DecidableEq, Repr

def Signal.notice : Signal → LogEntry
  | interrupt => Topic.program.info "Received SIGINT (Ctrl+C), shutting down..."
  | terminate => Topic.program.info "Received SIGTERM, shutting down..."

structure Machine where
  files : FileTree
  environment : Environment
  network : Remote.Network
  /-- Sent to the program as soon as a server is seen to stall. -/
  signal : Option Signal := none
  out : Sink := .endless

inductive Diagnostic
  | log (entry : LogEntry)
  | bytes (bs : Bytes)
  deriving DecidableEq, Repr

def Diagnostic.text : Diagnostic → Bytes
  | log entry => Utf8.encode entry.line
  | bytes bs => bs

structure Finish where
  code : Nat
  stdout : Bytes := []
  diagnostics : List Diagnostic := []
  client : Remote.Client

namespace Program

def levelFor (verbosity : Nat) : Level :=
  match verbosity with
  | 0 => .warn
  | 1 => .info
  | _ => .debug

def logFilter (env : Environment) (verbosity : Nat) : LogFilter :=
  (((env.lookup "RUST_LOG").bind Utf8.decode?).bind LogFilter.ofText?).getD
    (LogFilter.upTo (levelFor verbosity))

def diagnostics (es : List Event) : List Diagnostic :=
  es.filterMap fun
    | .log entry => some (.log entry)
    | .output (.write .err bs) => some (.bytes bs)
    | _ => none

def opening (c : Configuration) : List LogEntry :=
  [Topic.program.info s!"{programName} v{programVersion} starting...",
    Topic.program.info (s!"Target {c.target}, timeout {c.timeout.seconds}s, " ++
      s!"{c.commands.length} command(s)")]

def conclusion (commands : Nat) : Except RunError Report → Nat × LogEntry
  | .ok report =>
    match report.outcome with
    | .completed =>
      (0, Topic.program.info s!"All {report.results.length} command(s) succeeded")
    | .stopped index exitStatus =>
      (0, Topic.program.info (s!"Stopped at command {index + 1} of {commands} " ++
        s!"(exit status {exitStatus})"))
  | .error .interrupted => (130, Topic.program.warn "Run interrupted")
  | .error e =>
    if e.isFatalConnect then (1, Topic.program.error s!"Could not open session: {e.message}")
    else (1, Topic.program.error s!"Run aborted: {e.message}")

def shutdown (m : Machine) : Shutdown :=
  match m.signal with
  | some s => .onStall [s.notice]
  | none => .never

def finish {σ : Type} (c : Configuration) (client : Remote.Client) (e : Execution σ) :
    Option Finish :=
  e.result.map fun result =>
    let (code, last) := conclusion c.commands.length result
    { code
      stdout := Event.written .out e.events
      diagnostics := (opening c).map .log ++ diagnostics e.events ++ [.log last]
      client }

def runConfiguration (m : Machine) (c : Configuration) : Option Finish :=
  let client : Remote.Client := { files := m.files }
  if c.dryRun then
    finish c client (Run.run (dryRun c.target) c.commands (shutdown m) { out := m.out } ())
  else
    let e :=
      Run.run (Remote.connector m.network c.remote) c.commands (shutdown m) { out := m.out } client
    finish c e.state e

def Finish.filtered (f : LogFilter) (r : Finish) : Finish :=
  { r with diagnostics := r.diagnostics.filter fun
      | .log entry => f.shows entry
      | .bytes _ => true }

/-- What standard output takes of a text that is told instead of a run; a failure is ignored. -/
def shown (m : Machine) (text : String) : Bytes := (m.out.write (Utf8.encode text)).1

/-- A program whose arguments do not lead to a configuration. Of the complaint about its usage the
first line is modelled; the lines behind it, which hint at the usage and at the help, are left
out. -/
def halted (m : Machine) (h : Halt) : Finish :=
  let client : Remote.Client := { files := m.files }
  match h with
  | .usage e =>
    { code := 2, diagnostics := [.bytes (Utf8.encode (e.firstLine .stream ++ "\n"))], client }
  | .help long => { code := 0, stdout := shown m (Help.text .stream m.environment long), client }
  | .version => { code := 0, stdout := shown m versionText, client }

def run (m : Machine) (argv : List Bytes) : Option Finish :=
  match Arguments.parse argv m.environment with
  | .error h => some (halted m h)
  | .ok a =>
    let filter := logFilter m.environment a.verbosity
    match Configuration.ofArguments m.files a with
    | .error fault =>
      some (Finish.filtered filter
        { code := 1
          diagnostics := [.log (Topic.program.error fault.error.message)]
          client := { files := m.files } })
    | .ok c => (runConfiguration m c).map (Finish.filtered filter)

end Program

end RemoteBatch
