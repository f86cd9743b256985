import RemoteBatch.Text.Pattern.Atom

/-!
Classes of characters in brackets, with ranges, named classes, nested classes and the operators `&&`,
`--` and `~~`. What is told of a class that has been read is how deeply it is nested.
-/

namespace RemoteBatch.Text.Pattern

structure Row where
  count : Nat := 0
  deepest : Nat := 0
  deriving DecidableEq, Repr

namespace Row

def add (r : Row) (depth : Nat) : Row := ⟨r.count + 1, max r.deepest depth⟩

def depth (r : Row) : Nat := if r.count ≤ 1 then r.deepest else r.deepest + 1

end Row

namespace Bracket

/-- A class that is being read: its members behind the last operator, and the depth of what stands
before that. -/
structure Level where
  left : Option Nat := none
  members : Row := {}
  deriving DecidableEq, Repr

namespace Level

def add (l : Level) (depth : Nat) : Level := { l with members := l.members.add depth }

def depth (l : Level) : Nat :=
  match l.left with
  | none => l.members.depth
  | some d => max d l.members.depth + 1

def operator (l : Level) : Level := { left := some l.depth }

end Level

def names : List String :=
  ["alnum", "alpha", "ascii", "blank", "cntrl", "digit", "graph", "lower", "print", "punct",
    "space", "upper", "word", "xdigit"]

def named? : List Char → Option (Bool × List Char)
  | ':' :: cs =>
    let negated := cs.head? = some '^'
    let cs := if negated then cs.tail else cs
    match cs.dropWhile (· ≠ ':') with
    | ':' :: ']' :: rest =>
      if names.contains (String.ofList (cs.takeWhile (· ≠ ':'))) then some (negated, rest)
      else none
    | _ => none
  | _ => none

def admitsNamed (m : Mode) (negated : Bool) : Bool :=
  if m.unicode then !m.ignoreCase else !negated

def dashes (m : Mode) : (fuel : Nat) → Level → List Char → Level × List Char
  | 0, l, cs => (l, cs)
  | fuel + 1, l, cs =>
    match m.skip cs with
    | '-' :: rest => dashes m fuel (l.add 0) rest
    | cs => (l, cs)

def start? (m : Mode) (cs : List Char) : Option (Level × List Char) :=
  let cs := m.skip cs
  let negated := cs.head? = some '^'
  let (l, cs) := dashes m cs.length {} (if negated then cs.tail else cs)
  let (l, cs) :=
    match l.members.count, cs with
    | 0, ']' :: rest => (l.add 0, rest)
    | _, cs => (l, cs)
  if negated && !m.unicode then none
  else if l.members.count ≠ 0 && !m.admitsMember (.character '-' false) then none
  else some (l, cs)

def item? (m : Mode) : List Char → Option (Atom × List Char)
  | [] => none
  | '\\' :: rest => escape? m rest
  | c :: rest => some (.character c false, rest)

/-- The character that counts as the next one behind a dash. Blanks are passed over, and the first
comment mark, but not its comment. -/
def behindDash? (m : Mode) (cs : List Char) : Option Char :=
  if m.spaced then
    match cs.dropWhile isBlank with
    | '#' :: rest => (rest.dropWhile isBlank).head?
    | cs => cs.head?
  else cs.head?

def member? (m : Mode) (cs : List Char) : Option (List Char) := do
  let (first, cs) ← item? m cs
  if !m.admitsMember first then none
  else match m.skip cs with
    | '-' :: rest =>
      if behindDash? m rest = some ']' || behindDash? m rest = some '-' then some ('-' :: rest)
      else
        let (last, rest) ← item? m (m.skip rest)
        match first, last with
        | .character a _, .character b _ =>
          if a ≤ b && m.admitsMember last then some rest else none
        | _, _ => none
    | rest => some rest

def readFrom (m : Mode) : (fuel : Nat) → Level → List Level → List Char → Option (Nat × List Char)
  | 0, _, _, _ => none
  | fuel + 1, l, outer, cs =>
    match m.skip cs with
    | [] => none
    | ']' :: rest =>
      match outer with
      | [] => some (l.depth + 1, rest)
      | o :: outer => readFrom m fuel (o.add (l.depth + 1)) outer rest
    | '&' :: '&' :: rest | '-' :: '-' :: rest | '~' :: '~' :: rest =>
      readFrom m fuel l.operator outer rest
    | '[' :: rest =>
      match named? rest with
      | some (negated, rest) =>
        if admitsNamed m negated then readFrom m fuel (l.add 0) outer rest else none
      | none => do
        let (inner, rest) ← start? m rest
        readFrom m fuel inner (l :: outer) rest
    | cs => do readFrom m fuel (l.add 0) outer (← member? m cs)

def read? (m : Mode) (cs : List Char) : Option (Nat × List Char) := do
  let (l, rest) ← start? m cs
  readFrom m (rest.length + 1) l [] rest

example : (read? {} "a-z]".toList).map Prod.fst = some 1 := by decide +kernel
example : (read? {} "^]a[:digit:]&&[b--c]]x".toList).map Prod.fst = some 4 := by decide +kernel
example : read? {} "z-a]".toList = none := by decide +kernel

end Bracket

end RemoteBatch.Text.Pattern
