import RemoteBatch.Log
import RemoteBatch.Run.Report
import RemoteBatch.RunError

/-!
Connectors: what a run needs of the other side. A connector opens a session, runs commands on it
and closes it. Each action starts from a state and gives the next one; an action that waits may
stall, and then only its own time limit or a shutdown ends the wait. The one for a dry run sends
nothing, and every command succeeds and prints itself.
-/

namespace RemoteBatch.Run

structure Reply (σ α : Type) where
  value : α
  logs : List LogEntry := []
  state : σ

inductive Outcome (σ α : Type)
  | done (reply : Reply σ α)
  /-- Nothing more comes. `noticed` tells whether one who watches the other side sees it stall, and
  `late` is what a time limit of the action makes of it. -/
  | stalls (noticed : Bool) (logs : List LogEntry) (state : σ) (late : Option (Reply σ α))

structure Connector (σ : Type) where
  connect : σ → Outcome σ (Except RunError Unit)
  exec : String → σ → Outcome σ (Except RunError CommandResult)
  close : σ → Reply σ (Except RunError Unit)

inductive Shutdown
  | never
  /-- As soon as an action is seen to stall; `notice` is logged then. -/
  | onStall (notice : List LogEntry)

inductive Settled (σ α : Type)
  | value (reply : Reply σ α)
  | interrupted (logs : List LogEntry) (state : σ)
  | never (logs : List LogEntry) (state : σ)

/-- A shutdown comes before a time limit. -/
def Outcome.settle {σ α : Type} (s : Shutdown) : Outcome σ α → Settled σ α
  | .done reply => .value reply
  | .stalls noticed logs state late =>
    match s, noticed, late with
    | .onStall notice, true, _ => .interrupted (logs ++ notice) state
    | _, _, some reply => .value { reply with logs := logs ++ reply.logs }
    | _, _, none => .never logs state

def dryResult (command : String) : CommandResult :=
  { command := command, stdout := "[dry-run] " ++ command }

def dryRun (target : String) : Connector Unit where
  connect _ :=
    .done
      { value := .ok ()
        logs := [Topic.dryRun.info s!"Dry run: not connecting to {target}"]
        state := () }
  exec command _ := .done { value := .ok (dryResult command), state := () }
  close _ := { value := .ok (), state := () }

end RemoteBatch.Run
