import RemoteBatch.Settings.Flag
import RemoteBatch.Text.Decimal
import RemoteBatch.Text.Plain

/-!
Why a command line or an environment is refused.
-/

namespace RemoteBatch.Settings

inductive NumberFault
  | text (fault : Decimal.Fault)
  | outOfRange (value : Int) (max : Nat)
  deriving DecidableEq, Repr

def NumberFault.message : NumberFault → String
  | .text fault => fault.message
  | .outOfRange value max => s!"{value} is not in 0..={max}"

inductive UsageError
  | unexpectedArgument (text : String)
  | valueRequired (flag : Flag)
  | unexpectedValue (value : String) (flag : Flag)
  | repeated (flag : Flag)
  | conflict (flag other : Flag)
  | invalidChoice (value : String) (flag : Flag)
  | invalidNumber (value : String) (flag : Flag) (fault : NumberFault)
  | notUtf8
  deriving DecidableEq, Repr

namespace UsageError

def message (m : Text.Medium) : UsageError → String
  | unexpectedArgument text => s!"unexpected argument '{Text.plain m text}' found"
  | valueRequired flag => s!"a value is required for '{flag.shown}' but none was supplied"
  | unexpectedValue value flag =>
    s!"unexpected value '{Text.plain m value}' for '{flag.shown}' found; no more were expected"
  | repeated flag => s!"the argument '{flag.shown}' cannot be used multiple times"
  | conflict flag other => s!"the argument '{flag.shown}' cannot be used with '{other.shown}'"
  | invalidChoice value flag =>
    s!"invalid value '{Text.plain m value}' for '{flag.shown}'"
  | invalidNumber value flag fault =>
    s!"invalid value '{Text.plain m value}' for '{flag.shown}': {fault.message}"
  | notUtf8 => "invalid UTF-8 was detected in one or more arguments"

def firstLine (m : Text.Medium) (e : UsageError) : String :=
  String.ofList (("error: " ++ e.message m).toList.takeWhile (· ≠ '\n'))

end UsageError

end RemoteBatch.Settings
