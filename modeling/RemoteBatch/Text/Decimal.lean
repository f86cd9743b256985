/-!
Decimal numbers with a range. Digits are read from the left and the first fault decides: a
character that is no digit, or a value that has left the range. Of real numbers only the form is
told.
-/

namespace RemoteBatch.Decimal

inductive Fault
  | empty
  | invalidDigit
  | tooLarge
  | tooSmall
  deriving DecidableEq, Repr

def Fault.message : Fault → String
  | .empty => "cannot parse integer from empty string"
  | .invalidDigit => "invalid digit found in string"
  | .tooLarge => "number too large to fit in target type"
  | .tooSmall => "number too small to fit in target type"

def digit? (c : Char) : Option Nat :=
  if '0' ≤ c ∧ c ≤ '9' then some (c.toNat - '0'.toNat) else none

def digits (max : Nat) (beyond : Fault) : Nat → List Char → Except Fault Nat
  | acc, [] => .ok acc
  | acc, c :: cs =>
    match digit? c with
    | none => .error .invalidDigit
    | some d => if acc * 10 + d > max then .error beyond else digits max beyond (acc * 10 + d) cs

def readNat (max : Nat) : List Char → Except Fault Nat
  | [] => .error .empty
  | ['+'] => .error .invalidDigit
  | '+' :: cs => digits max .tooLarge 0 cs
  | cs => digits max .tooLarge 0 cs

def readInt (max : Nat) : List Char → Except Fault Int
  | ['-'] => .error .invalidDigit
  | '-' :: cs => (digits (max + 1) .tooSmall 0 cs).map fun n => -(n : Int)
  | cs => (readNat max cs).map fun n => (n : Int)

def unsigned : List Char → List Char
  | '+' :: cs => cs
  | '-' :: cs => cs
  | cs => cs

def isDigit (c : Char) : Bool := (digit? c).isSome

def isExponent : List Char → Bool
  | [] => true
  | e :: cs => (e = 'e' || e = 'E') && unsigned cs ≠ [] && (unsigned cs).all isDigit

def isReal (cs : List Char) : Bool :=
  let cs := unsigned cs
  let rest := cs.dropWhile isDigit
  let fraction := if rest.head? = some '.' then rest.tail.takeWhile isDigit else []
  let rest := if rest.head? = some '.' then rest.tail.dropWhile isDigit else rest
  ["inf", "infinity", "nan"].contains (String.ofList cs).toLower ||
    (cs.takeWhile isDigit ++ fraction ≠ [] && isExponent rest)

def maxUInt16 : Nat := 65535
def maxUInt64 : Nat := 18446744073709551615
def maxInt64 : Nat := 9223372036854775807

example : readNat maxUInt16 "+022".toList = .ok 22 := rfl
example : readNat maxUInt16 "-1".toList = .error .invalidDigit := rfl
example : readInt maxInt64 "-1".toList = .ok (-1) := rfl

example : ["+1.5e-3", ".5", "5.", "NaN"].all (isReal ·.toList) = true := by decide +kernel
example : ["", ".", "1e", "1.x"].any (isReal ·.toList) = false := by decide +kernel

end RemoteBatch.Decimal
