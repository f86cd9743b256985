import RemoteBatch.Log
import RemoteBatch.Run.Report

/-!
Events of a run in the order in which they happen, and what can be seen of them: the trace, the log
and the two output streams.
-/

namespace RemoteBatch.Run

inductive Event
  | log (entry : LogEntry)
  | connect
  | exec (command : String)
  | output (o : Output)
  | close
  deriving DecidableEq, Repr

namespace Event

def logEntry? : Event → Option LogEntry
  | log entry => some entry
  | _ => none

def output? : Event → Option Output
  | output o => some o
  | _ => none

def command? : Event → Option String
  | exec command => some command
  | _ => none

/-- Joins writes to one stream that nothing stands between; a write of no bytes leaves nothing. -/
def merge : List Event → List Event
  | [] => []
  | output (.write _ []) :: t => merge t
  | output (.write s bs) :: t =>
    match merge t with
    | output (.write s' bs') :: rest =>
      if s = s' then output (.write s (bs ++ bs')) :: rest
      else output (.write s bs) :: output (.write s' bs') :: rest
    | rest => output (.write s bs) :: rest
  | e :: t => e :: merge t

def trace (es : List Event) : List Event := merge (es.filter fun e => e.logEntry?.isNone)

def logs (es : List Event) : List LogEntry := es.filterMap logEntry?

def commands (es : List Event) : List String := es.filterMap command?

def written (s : Stream) (es : List Event) : Bytes :=
  es.flatMap fun
    | output (.write s' bs) => if s' = s then bs else []
    | _ => []

@[simp] theorem logs_append (es fs : List Event) : logs (es ++ fs) = logs es ++ logs fs := by
  simp [logs]

@[simp] theorem commands_append (es fs : List Event) :
    commands (es ++ fs) = commands es ++ commands fs := by
  simp [commands]

@[simp] theorem written_append (s : Stream) (es fs : List Event) :
    written s (es ++ fs) = written s es ++ written s fs := by
  simp [written]

end Event

end RemoteBatch.Run
