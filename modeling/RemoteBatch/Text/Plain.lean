/-!
Text without what steers a terminal: control characters other than white space and escape sequences
are left out. A sequence is followed from its escape character to its end. White space that a
terminal would obey inside of one is kept: it breaks the sequence off, but in a stream it only
interrupts it.
-/

namespace RemoteBatch.Text

inductive Position
  | ground
  | escape
  | intermediate
  | parameters
  | deviceStart
  | deviceParameters
  | deviceIntermediate
  | string
  | command
  deriving DecidableEq, Repr

namespace Position

def isBreak (c : Char) : Bool := c = '\t' || c = '\n' || c = '\x0c' || c = '\r'

def isControl (c : Char) : Bool := c < ' ' || c = '\x7f'

def isShown (c : Char) : Bool := isBreak c || !isControl c

def isOpen : Position → Bool
  | escape | intermediate | parameters => true
  | _ => false

def behindPrintable (p : Position) (c : Char) : Position :=
  match p with
  | escape =>
    if c < '0' then intermediate
    else if c = '[' then parameters
    else if c = ']' then command
    else if c = 'P' then deviceStart
    else if c = 'X' || c = '^' || c = '_' then string
    else ground
  | intermediate => if c < '0' then intermediate else ground
  | parameters => if c < '@' then parameters else ground
  | deviceStart =>
    if c < '0' then deviceIntermediate else if c < '@' then deviceParameters else string
  | deviceParameters =>
    if c < '0' then deviceIntermediate else if c < '<' then deviceParameters else string
  | deviceIntermediate => if c < '0' then deviceIntermediate else string
  | p => p

def endsString (c : Char) : Bool := (String.utf8EncodeChar c).contains 0x9C

def next (p : Position) (c : Char) : Position :=
  if c = '\x1b' then escape
  else if c = '\x18' || c = '\x1a' then ground
  else if p = string && endsString c then ground
  else if p = command && c = '\x07' then ground
  else if isControl c || '\x7f' < c then p
  else p.behindPrintable c

end Position

inductive Medium
  | whole
  | stream
  deriving DecidableEq, Repr

open Position in
/-- What is kept of a text that starts at `p`. While `interrupted`, characters are shown up to the
next control character, with which the sequence goes on, or a character beyond ASCII. -/
def plainFrom (m : Medium) : (p : Position) → (interrupted : Bool) → List Char → List Char
  | _, _, [] => []
  | p, interrupted, c :: rest =>
    if interrupted && isShown c then
      c :: if '\x7f' < c then plainFrom m ground false rest else plainFrom m p true rest
    else if p.isOpen && isBreak c then
      c :: plainFrom m (if m = .whole then ground else p) (m = .stream) rest
    else if p = ground && isShown c then c :: plainFrom m ground false rest
    else plainFrom m (p.next c) false rest

def plain (m : Medium) (s : String) : String := String.ofList (plainFrom m .ground false s.toList)

example : plain .whole "a\x1b[31mb\x1b[0m\x07c\td" = "abc\td" := by decide +kernel
example : plain .whole "\x1b]0;title\x07x\x1b(By" = "xy" := by decide +kernel
example : plain .whole "\x1b[1\n2;\x1b" = "\n2;" := by decide +kernel
example : plain .stream "\x1b[1\n2;\x07x\x1b" = "\n2;" := by decide +kernel

end RemoteBatch.Text
