/-!
Spans of time, which this program knows to the millisecond; why a run fails, and the one text for
each cause. A command that exits with a non-zero status is no error: it ends the run early and is
part of its report.
-/

namespace RemoteBatch

structure Duration where
  millis : Nat
  deriving DecidableEq, Repr

namespace Duration

def ofSeconds (n : Nat) : Duration := ⟨n * 1000⟩

def seconds (d : Duration) : Nat := d.millis / 1000

def decimals (n : Nat) : String :=
  if n % 100 = 0 then s!"{n / 100}"
  else if n % 10 = 0 then s!"{n / 100}{n / 10 % 10}"
  else s!"{n / 100}{n / 10 % 10}{n % 10}"

/-- In the largest unit that leaves a whole part: `1.5s`, `500ms`, `0ns`. -/
def text (d : Duration) : String :=
  let whole := d.millis / 1000
  let part := d.millis % 1000
  if d.millis = 0 then "0ns"
  else if whole = 0 then s!"{part}ms"
  else if part = 0 then s!"{whole}s"
  else s!"{whole}.{decimals part}s"

example : [(1500 : Nat), 500, 0, 60000, 1001, 2050].map (fun n => (Duration.mk n).text) =
    ["1.5s", "500ms", "0ns", "60s", "1.001s", "2.05s"] := by decide +kernel

end Duration

inductive RunError
  | connection (reason : String)
  | authentication (reason : String)
  | hostKeyRejected (address : String)
  | channel (reason : String)
  | timeout (limit : Duration)
  | interrupted
  | config (reason : String)
  | configFile (reason : String)
  | io (reason : String)
  deriving DecidableEq, Repr

namespace RunError

def message : RunError → String
  | connection reason => s!"SSH connection error: {reason}"
  | authentication reason => s!"Authentication failed: {reason}"
  | hostKeyRejected address => s!"Host key rejected for {address}"
  | channel reason => s!"SSH channel error: {reason}"
  | timeout limit => s!"Command timeout after {limit.seconds}s"
  | interrupted => "Run interrupted"
  | config reason => s!"Configuration error: {reason}"
  | configFile reason => s!"Config file error: {reason}"
  | io reason => s!"IO error: {reason}"

def isFatalConnect : RunError → Bool
  | connection _ | authentication _ | hostKeyRejected _ => true
  | _ => false

end RunError

end RemoteBatch
