import RemoteBatch.Text.Decimal
import RemoteBatch.Text.Lines

/-!
Text with one `key=value` per line. A line is split at its first `=` and the value kept as it is;
lines that start with `#`, have no `=` or have an empty key say nothing. A key may be a path, such
as `a.b` or `a[0]`, and then makes its first name a map or a sequence.
-/

namespace RemoteBatch.Settings

abbrev KeyValue := List Char × List Char

namespace KeyValue

def isComment (line : List Char) : Bool := line.head? = some '#'

def split? (line : List Char) : Option KeyValue :=
  match line.dropWhile (· ≠ '=') with
  | [] => none
  | _ :: value => some (line.takeWhile (· ≠ '='), value)

def ofLine? (line : List Char) : Option KeyValue :=
  if isComment line then none else (split? line).filter (·.1 ≠ [])

def ofText (text : List Char) : List KeyValue := (Text.lines text).filterMap ofLine?

inductive Shape
  | scalar
  | map
  | sequence
  deriving DecidableEq, Repr

def isNameChar (c : Char) : Bool := c.isAlphanum || c = '_' || c = '-'

def isPadding (c : Char) : Bool := c = ' ' || c = '\t'

def isIndex (cs : List Char) : Bool :=
  let cs := ((cs.dropWhile isPadding).reverse.dropWhile isPadding).reverse
  cs.head? ≠ some '+' && (Decimal.readInt Decimal.maxInt64 cs).toBool

/-- Whether the steps behind a name are all of the form `.name` or `[index]`; `count` bounds their
number. -/
def areSteps : (count : Nat) → List Char → Bool
  | _, [] => true
  | count + 1, '.' :: rest =>
    rest.takeWhile isNameChar ≠ [] && areSteps count (rest.dropWhile isNameChar)
  | count + 1, '[' :: rest =>
    match rest.dropWhile (· ≠ ']') with
    | [] => false
    | _ :: later => isIndex (rest.takeWhile (· ≠ ']')) && areSteps count later
  | _, _ => false

/-- The name that a key is about and what the key makes of it. A key that is no path is a name. -/
def target (key : List Char) : List Char × Shape :=
  let name := key.takeWhile isNameChar
  let steps := key.dropWhile isNameChar
  if name ≠ [] && areSteps steps.length steps then
    match steps with
    | '.' :: _ => (name, .map)
    | '[' :: _ => (name, .sequence)
    | _ => (name, .scalar)
  else (key, .scalar)

inductive Value
  | absent
  | text (s : String)
  | structured (shape : Shape)
  deriving DecidableEq, Repr

/-- The first pair with exactly that key gives a text, unless a path starts with the name. -/
def find (pairs : List KeyValue) (name : String) : Value :=
  match pairs.find? fun p => (target p.1).1 = name.toList ∧ (target p.1).2 ≠ .scalar with
  | some p => .structured (target p.1).2
  | none =>
    match pairs.find? (·.1 = name.toList) with
    | some p => .text (String.ofList p.2)
    | none => .absent

example : (["a.b", "a[0]", "a[ -1 ].c", "a", "a.", "a[x]", ".a", "a b"].map
    fun k => target k.toList) =
    [("a", .map), ("a", .sequence), ("a", .sequence), ("a", .scalar), ("a.", .scalar),
      ("a[x]", .scalar), (".a", .scalar), ("a b", .scalar)].map
      fun (k, s) => (k.toList, s) := by decide +kernel

end KeyValue

end RemoteBatch.Settings
