import RemoteBatch.Text.Numeric
import RemoteBatch.Text.Pattern.Bracket

/-!
Search patterns: which texts are one. Patterns are made of atoms, classes in brackets, groups in
parentheses and bars between alternatives; `*`, `+` and `?` repeat what stands before them. Bounded
repetitions are not among them, and nesting is limited.
-/

namespace RemoteBatch.Text.Pattern

/-- What has been read of a group: the greatest depth of the alternatives before the last bar, what
stands behind that, and the depth of its last expression if that may be repeated. -/
structure Level where
  branches : Option Nat := none
  row : Row := {}
  operand : Option Nat := none
  deriving DecidableEq, Repr

namespace Level

def add (l : Level) (depth : Nat) : Level :=
  { l with row := l.row.add depth, operand := some depth }

def addSwitches (l : Level) : Level := { l with row := l.row.add 0, operand := none }

def bar (l : Level) : Level := { branches := some (max (l.branches.getD 0) l.row.depth) }

def depth (l : Level) : Nat :=
  match l.branches with
  | none => l.row.depth
  | some d => max d l.row.depth + 1

def repeat? (l : Level) : Option Level :=
  l.operand.map fun d =>
    { l with row := { l.row with deepest := max l.row.deepest (d + 1) }, operand := some (d + 1) }

end Level

structure State where
  mode : Mode := {}
  level : Level := {}
  outer : List (Mode × Level) := []
  names : List (List Char) := []

namespace State

def add (s : State) (depth : Nat) : State := { s with level := s.level.add depth }

def enter (s : State) (mode : Mode) : State :=
  { s with mode, level := {}, outer := (s.mode, s.level) :: s.outer }

def leave? (s : State) : Option State :=
  match s.outer with
  | [] => none
  | (mode, level) :: outer => some { s with mode, level := level.add (s.level.depth + 1), outer }

def isNameStart (c : Char) : Bool := c = '_' || isAlphabetic c

def isNameChar (c : Char) : Bool :=
  c = '_' || c = '.' || c = '[' || c = ']' || isAlphanumeric c

def isName : List Char → Bool
  | [] => false
  | c :: cs => isNameStart c && cs.all isNameChar

def openNamed? (s : State) (cs : List Char) : Option (State × List Char) :=
  let name := cs.takeWhile (· ≠ '>')
  match cs.dropWhile (· ≠ '>') with
  | [] => none
  | _ :: rest =>
    if isName name && !s.names.contains name then
      some ({ s.enter s.mode with names := name :: s.names }, rest)
    else none

def openSwitches? (s : State) (cs : List Char) : Option (State × List Char) :=
  let switches := cs.takeWhile fun c => c ≠ ':' && c ≠ ')'
  if !Mode.areSwitches switches then none
  else match cs.dropWhile fun c => c ≠ ':' && c ≠ ')' with
    | ':' :: rest => some (s.enter (s.mode.switched switches), rest)
    | ')' :: rest =>
      if switches = [] then none
      else some ({ s with mode := s.mode.switched switches, level := s.level.addSwitches }, rest)
    | _ => none

def open? (s : State) (cs : List Char) : Option (State × List Char) :=
  match s.mode.skip cs with
  | '?' :: '<' :: rest => s.openNamed? rest
  | '?' :: 'P' :: '<' :: rest => s.openNamed? rest
  | '?' :: rest => s.openSwitches? rest
  | rest => some (s.enter s.mode, rest)

def addAtom? (s : State) (a : Atom) : Option State :=
  if s.mode.admits a then some (s.add 0) else none

def step? (s : State) (c : Char) (rest : List Char) : Option (State × List Char) :=
  match c with
  | '(' => s.open? rest
  | ')' => s.leave?.map (·, rest)
  | '|' => some ({ s with level := s.level.bar }, rest)
  | '[' => (Bracket.read? s.mode rest).map fun (depth, rest) => (s.add depth, rest)
  | '*' | '+' | '?' =>
    s.level.repeat?.map fun level =>
      ({ s with level }, if rest.head? = some '?' then rest.tail else rest)
  | '{' => none
  | '\\' => do
    let (a, rest) ← escape? s.mode rest
    (s.addAtom? a).map (·, rest)
  | '.' => (s.addAtom? .dot).map (·, rest)
  | '^' | '$' => (s.addAtom? .anchor).map (·, rest)
  | c => (s.addAtom? (.character c false)).map (·, rest)

def readFrom : (fuel : Nat) → State → List Char → Option State
  | fuel, s, cs =>
    match fuel, s.mode.skip cs with
    | _, [] => some s
    | 0, _ => none
    | fuel + 1, c :: rest => do
      let (s, rest) ← s.step? c rest
      readFrom fuel s rest

end State

def maxDepth : Nat := 250

end Pattern

def isPattern (s : String) : Bool :=
  match Pattern.State.readFrom s.toList.length {} s.toList with
  | some r => r.outer.isEmpty && r.level.depth ≤ Pattern.maxDepth
  | none => false

example : ["", "a.*b?", "(a|[^]x])+", "(?<n>\\x41)", "(?-u:\\d)", "(?x: a # b"].map isPattern =
    [true, true, true, true, true, false] := by decide +kernel
example : ["*", "(a", "a)", "[a", "\\d", "a\x7b", "(?i)a", "(?s)*"].any isPattern = false := by
  decide +kernel

end RemoteBatch.Text
