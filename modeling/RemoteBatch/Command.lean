import RemoteBatch.Text.Lines
import RemoteBatch.Text.Graphic

/-!
Commands and command lists. A command is trimmed, not empty and free of NUL, which no request to
run a command can carry; a list has at least one command.
-/

namespace RemoteBatch.Command

inductive Fault
  | empty
  | containsNul (command : String)
  | noCommands
  deriving DecidableEq, Repr

def Fault.message : Fault → String
  | .empty => "Command cannot be empty"
  | .containsNul command => s!"Command contains a NUL byte: {Text.quote command}"
  | .noCommands => "No commands given (use --command or --commands-file)"

def sanitize (command : String) : Except Fault String :=
  let trimmed := Text.trim command
  if trimmed.isEmpty then .error .empty
  else if trimmed.toList.contains '\x00' then .error (.containsNul trimmed)
  else .ok trimmed

def sanitizeAll (commands : List String) : Except Fault (List String) := do
  let commands ← commands.mapM sanitize
  if commands.isEmpty then .error .noCommands else .ok commands

end RemoteBatch.Command
