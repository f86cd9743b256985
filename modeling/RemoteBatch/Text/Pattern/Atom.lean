import RemoteBatch.Text.Lines
import RemoteBatch.Text.Pattern.Mode

/-!
The smallest parts of a search pattern, and which of them a mode admits. There are no tables of
letter case or of classes beyond ASCII, so what needs one is refused; and in a pattern about bytes
what could match a part of a character is refused.
-/

namespace RemoteBatch.Text.Pattern

inductive Atom
  | character (c : Char) (asByte : Bool)
  | dot
  | anchor
  | boundary
  | shorthand (negated : Bool)
  deriving DecidableEq, Repr

def isAscii (c : Char) : Bool := c ≤ '\x7f'

namespace Mode

def admits (m : Mode) : Atom → Bool
  | .character c asByte => if m.unicode then !m.ignoreCase else !asByte || isAscii c
  | .dot => m.unicode
  | .anchor => true
  | .boundary => !m.unicode
  | .shorthand negated => !m.unicode && !negated

def admitsMember (m : Mode) : Atom → Bool
  | .character c _ => if m.unicode then !m.ignoreCase else isAscii c
  | .shorthand negated => !m.unicode && !negated
  | _ => false

def skipFrom : (comment : Bool) → List Char → List Char
  | _, [] => []
  | true, c :: cs => skipFrom (c ≠ '\n') cs
  | false, c :: cs =>
    if isBlank c then skipFrom false cs else if c = '#' then skipFrom true cs else c :: cs

def skip (m : Mode) (cs : List Char) : List Char := if m.spaced then skipFrom false cs else cs

end Mode

def hexValue? (c : Char) : Option Nat :=
  if '0' ≤ c ∧ c ≤ '9' then some (c.toNat - '0'.toNat)
  else if 'a' ≤ c ∧ c ≤ 'f' then some (c.toNat - 'a'.toNat + 10)
  else if 'A' ≤ c ∧ c ≤ 'F' then some (c.toNat - 'A'.toNat + 10)
  else none

def hex? (m : Mode) : (count n : Nat) → List Char → Option (Char × List Char)
  | 0, n, cs => if n.isValidChar then some (Char.ofNat n, cs) else none
  | count + 1, n, cs =>
    match m.skip cs with
    | [] => none
    | c :: rest => do hex? m count (n * 16 + (← hexValue? c)) rest

def isEscapable (c : Char) : Bool := isAscii c && !c.isAlphanum && c ≠ '<' && c ≠ '>'

def control? : Char → Option Char
  | 'a' => some '\x07'
  | 'f' => some '\x0c'
  | 't' => some '\t'
  | 'n' => some '\n'
  | 'r' => some '\r'
  | 'v' => some '\x0b'
  | _ => none

def escape? (m : Mode) : List Char → Option (Atom × List Char)
  | [] => none
  | c :: rest =>
    match c with
    | 'x' => (hex? m 2 0 rest).map fun (c, rest) => (.character c true, rest)
    | 'u' => (hex? m 4 0 rest).map fun (c, rest) => (.character c false, rest)
    | 'U' => (hex? m 8 0 rest).map fun (c, rest) => (.character c false, rest)
    | 'd' | 's' | 'w' => some (.shorthand false, rest)
    | 'D' | 'S' | 'W' => some (.shorthand true, rest)
    | 'A' | 'z' => some (.anchor, rest)
    | 'b' | 'B' | '<' | '>' => some (.boundary, rest)
    | _ =>
      match control? c with
      | some c => some (.character c false, rest)
      | none => if isEscapable c then some (.character c false, rest) else none

end RemoteBatch.Text.Pattern
