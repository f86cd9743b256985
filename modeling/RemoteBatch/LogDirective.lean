import RemoteBatch.Log
import RemoteBatch.Text.Numeric
import RemoteBatch.Text.Lines
import RemoteBatch.Text.Decimal
import RemoteBatch.Text.Pattern
import RemoteBatch.Text.Utf8

/-!
Directives of a log filter, `topic[span{field=value}]=level`, of which every part may be missing. The
shape of a directive is that of its text without the blanks round it. Its parts are cut out of the
text with the blanks, at the same offsets, so that a blank in front shifts all of them.
-/

namespace RemoteBatch

/-- Shows entries up to a rank of urgency, of topics whose path has the given start, if they have the
field. A directive for spans, which this program does not enter, shows none. -/
structure LogDirective where
  start : String := ""
  field : Option String := none
  rank : Nat
  forSpans : Bool := false
  deriving DecidableEq, Repr

namespace LogDirective

def levelNames : List (String × Nat) :=
  [("off", 0), ("error", 1), ("warn", 2), ("info", 3), ("debug", 4), ("trace", 5)]

def rank? (s : String) : Option Nat :=
  match Decimal.readNat Decimal.maxUInt64 s.toList with
  | .ok n => if n ≤ 5 then some n else none
  | .error _ => levelNames.lookup s.toLower

def maxRank : Nat := 5

def mayStart (c : Char) : Bool := Text.isAlphanumeric c || c = '_' || c = ':' || c = '-'

def width (cs : List Char) : Nat := (Utf8.encodeChars cs).length

def cut? (text : Bytes) (i n : Nat) : Option String := Utf8.decode? ((text.drop i).take n)

def levelAt? (text : Bytes) (i : Nat) (cs : List Char) : Option Nat :=
  match cs with
  | [] => some maxRank
  | '=' :: _ => do
    let level ← cut? text (i + 1) text.length
    if level = "" then some maxRank else rank? level
  | _ => none

def field? (s : String) : Option (String × Bool) :=
  let cs := s.toList
  let name := String.ofList (cs.takeWhile (· ≠ '='))
  match cs.dropWhile (· ≠ '=') with
  | [] => some (name, false)
  | _ :: value =>
    let value := String.ofList (value.takeWhile (· ≠ '='))
    if Text.isPattern value || Decimal.isReal value.toList then some (name, true) else none

def ofSpan? (text : Bytes) (start : String) (i : Nat) (cs : List Char) : Option LogDirective := do
  let span := cs.takeWhile fun c => c ≠ ']' && c ≠ '{'
  match cs.dropWhile fun c => c ≠ ']' && c ≠ '{' with
  | ']' :: rest =>
    let rank ← levelAt? text (i + width span + 1) rest
    some { start, rank, forSpans := true }
  | '{' :: rest =>
    let field := rest.takeWhile (· ≠ '}')
    let i := i + width span + 1
    match rest.dropWhile (· ≠ '}') with
    | '}' :: ']' :: rest =>
      if field = [] then none
      else
        let (name, hasValue) ← field? (← cut? text i (width field))
        let rank ← levelAt? text (i + width field + 2) rest
        some { start, field := some name, rank, forSpans := hasValue || span ≠ [] }
    | _ => none
  | _ => none

def ofWord (s : String) : LogDirective :=
  match rank? s with
  | some rank => { rank }
  | none => { start := s, rank := maxRank }

def ofText? (s : String) : Option LogDirective := do
  let text := Utf8.encode s
  match Text.trimChars s.toList with
  | [] => none
  | '[' :: rest => ofSpan? text "" 1 rest
  | c :: cs =>
    if !mayStart c then none
    else
      let word := c :: cs.takeWhile fun c => c ≠ '=' && c ≠ '['
      match cs.dropWhile fun c => c ≠ '=' && c ≠ '[' with
      | [] => some (ofWord s)
      | '[' :: rest => ofSpan? text (← cut? text 0 (width word)) (width word + 1) rest
      | rest =>
        let start ← cut? text 0 (width word)
        let rank ← levelAt? text (width word) rest
        some { start, rank }

def textField : String := "message"

def concerns (d : LogDirective) (t : Topic) : Bool :=
  !d.forSpans && d.start.isPrefixOf t.path && d.field.all (· = textField)

def precision (d : LogDirective) : Nat := 2 * d.start.utf8ByteSize + d.field.toList.length

end LogDirective

end RemoteBatch
