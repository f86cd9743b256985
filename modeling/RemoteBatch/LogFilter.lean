import RemoteBatch.LogDirective

/-!
Which log entries are shown. A filter is a list of directives with commas between them, of which the
most precise one that concerns an entry decides.
-/

namespace RemoteBatch

abbrev LogFilter := List LogDirective

namespace LogFilter

def upTo (l : Level) : LogFilter := [{ rank := l.rank }]

def ofText? (s : String) : Option LogFilter :=
  match ((s.splitOn ",").filter (· ≠ "")).mapM LogDirective.ofText? with
  | none => none
  | some [] => some (upTo .error)
  | some ds => some ds

def deciding? (f : LogFilter) (t : Topic) : Option LogDirective :=
  (f.filter (·.concerns t)).foldl (fun best d =>
      match best with
      | none => some d
      | some b => if b.precision ≤ d.precision then some d else some b)
    none

def shows (f : LogFilter) (e : LogEntry) : Bool :=
  match f.deciding? e.topic with
  | some d => e.level.rank ≤ d.rank
  | none => false

end LogFilter

end RemoteBatch
