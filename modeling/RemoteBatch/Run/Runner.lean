import RemoteBatch.Run.Connector
import RemoteBatch.Run.Event
import RemoteBatch.Run.Sink

/-!
A run: open a session, run the commands in order and print what comes of each, stop at the first
that fails, and close the session. A session that was opened is closed exactly once, whatever ends
the run.
-/

namespace RemoteBatch.Run

/-- A run or a part of it. Without a result it never ends. -/
structure Execution (σ : Type) where
  events : List Event
  state : σ
  result : Option (Except RunError Report)

inductive Next
  | goOn (result : CommandResult)
  | stop (report : Report)
  | fail (error : RunError)
  | never

structure Step (σ : Type) where
  events : List Event
  sinks : Sinks
  state : σ
  next : Next

def logEvents (logs : List LogEntry) : List Event := logs.map .log

def outputEvents (outputs : List Output) : List Event := outputs.map .output

variable {σ : Type}

def conclude (index total : Nat) (command : String) (r : CommandResult) (sinks : Sinks)
    (state : σ) : Step σ :=
  let notice := if r.success then [] else failureNotice command r.exitStatus
  let printed := sinks.performAll (r.printed ++ notice)
  match printed.fault with
  | some fault =>
    ⟨outputEvents printed.outputs, printed.sinks, state, .fail (.io fault.message)⟩
  | none =>
    if r.success then ⟨outputEvents printed.outputs, printed.sinks, state, .goOn r⟩
    else
      ⟨outputEvents printed.outputs ++
          logEvents [Topic.run.info s!"Stopping after command {index + 1} of {total}"],
        printed.sinks, state, .stop ⟨[r], .stopped index r.exitStatus⟩⟩

def step (k : Connector σ) (shutdown : Shutdown) (index total : Nat) (command : String)
    (sinks : Sinks) (state : σ) : Step σ :=
  let start : List Event :=
    [.log (Topic.run.debug s!"Executing command {index + 1}/{total}: {command}"), .exec command]
  match (k.exec command state).settle shutdown with
  | .never logs state => ⟨start ++ logEvents logs, sinks, state, .never⟩
  | .interrupted logs state =>
    ⟨start ++ logEvents (logs ++ [Topic.run.warn "Interrupted, closing session"]), sinks, state,
      .fail .interrupted⟩
  | .value ⟨.error e, logs, state⟩ => ⟨start ++ logEvents logs, sinks, state, .fail e⟩
  | .value ⟨.ok r, logs, state⟩ =>
    let s := conclude index total command r sinks state
    { s with events := start ++ logEvents logs ++ s.events }

def executeFrom (k : Connector σ) (shutdown : Shutdown) (total : Nat) :
    (index : Nat) → List String → Sinks → σ → Execution σ
  | _, [], _, state => ⟨[], state, some (.ok ⟨[], .completed⟩)⟩
  | index, command :: rest, sinks, state =>
    let s := step k shutdown index total command sinks state
    match s.next with
    | .goOn r =>
      let later := executeFrom k shutdown total (index + 1) rest s.sinks s.state
      ⟨s.events ++ later.events, later.state, later.result.map (·.map (·.cons r))⟩
    | .stop report => ⟨s.events, s.state, some (.ok report)⟩
    | .fail e => ⟨s.events, s.state, some (.error e)⟩
    | .never => ⟨s.events, s.state, none⟩

def executeAll (k : Connector σ) (shutdown : Shutdown) (commands : List String) (sinks : Sinks)
    (state : σ) : Execution σ :=
  executeFrom k shutdown commands.length 0 commands sinks state

def finish (k : Connector σ) (state : σ) : List Event × σ :=
  let closed := k.close state
  let complaint := match closed.value with
    | .ok () => []
    | .error e => [Topic.run.warn s!"Failed to close session cleanly: {e.message}"]
  (.close :: logEvents (closed.logs ++ complaint), closed.state)

def run (k : Connector σ) (commands : List String) (shutdown : Shutdown) (sinks : Sinks)
    (state : σ) : Execution σ :=
  match (k.connect state).settle shutdown with
  | .never logs state => ⟨.connect :: logEvents logs, state, none⟩
  | .interrupted logs state =>
    ⟨.connect :: logEvents (logs ++ [Topic.run.warn "Interrupted while connecting"]), state,
      some (.error .interrupted)⟩
  | .value ⟨.error e, logs, state⟩ => ⟨.connect :: logEvents logs, state, some (.error e)⟩
  | .value ⟨.ok (), logs, state⟩ =>
    let body := executeAll k shutdown commands sinks state
    let start := .connect :: logEvents logs ++ body.events
    match body.result with
    | none => ⟨start, body.state, none⟩
    | some result =>
      let (events, state) := finish k body.state
      ⟨start ++ events, state, some result⟩

/-- Runs a command list several times, each time over a session and sinks of its own, from the
state that the run before left. A run that never ends is the last. -/
def runs (k : Connector σ) (commands : List String) (shutdown : Shutdown) (sinks : Sinks) :
    (count : Nat) → σ → List (Execution σ)
  | 0, _ => []
  | count + 1, state =>
    let first := run k commands shutdown sinks state
    match first.result with
    | none => [first]
    | some _ => first :: runs k commands shutdown sinks count first.state

end RemoteBatch.Run
