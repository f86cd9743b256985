import RemoteBatch.Text.Lines
import RemoteBatch.Text.Utf8

/-!
Results of commands, the report of a run, and what a run prints: writes and flushes on the two
output streams, for the result of a command and for the notice of a failure.
-/

namespace RemoteBatch.Run

structure CommandResult where
  command : String
  stdout : String := ""
  stderr : String := ""
  exitStatus : Nat := 0
  deriving DecidableEq, Repr

def CommandResult.success (r : CommandResult) : Bool := r.exitStatus = 0

inductive End
  | completed
  | stopped (index exitStatus : Nat)
  deriving DecidableEq, Repr

structure Report where
  results : List CommandResult
  outcome : End
  deriving DecidableEq, Repr

namespace Report

def completed (r : Report) : Bool := r.outcome = .completed

def cons (result : CommandResult) (r : Report) : Report := { r with results := result :: r.results }

end Report

inductive Stream
  | out
  | err
  deriving DecidableEq, Repr

inductive Output
  | write (stream : Stream) (bytes : Bytes)
  | flush (stream : Stream)
  deriving DecidableEq, Repr

namespace Output

def line (stream : Stream) (text : String) : Output := write stream (Utf8.encode (text ++ "\n"))

def trimmedLine? (stream : Stream) (text : String) : Option Output :=
  let trimmed := Text.trim text
  if trimmed = "" then none else some (line stream trimmed)

end Output

/-- The command, then its standard output, then its standard error; a stream is flushed behind what
is written to it, and standard error only then. -/
def CommandResult.printed (r : CommandResult) : List Output :=
  Output.line .out ("$ " ++ r.command) ::
    (Output.trimmedLine? .out r.stdout).toList ++ [.flush .out] ++
      match Output.trimmedLine? .err r.stderr with
      | some line => [line, .flush .err]
      | none => []

def failureNotice (command : String) (exitStatus : Nat) : List Output :=
  [Output.line .err s!"Command `{command}` failed with exit status {exitStatus}, aborting",
    .flush .err]

end RemoteBatch.Run
