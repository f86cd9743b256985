/-!
Modes in which a search pattern is read. Letters behind `(?` switch them on, and behind a dash off.
-/

namespace RemoteBatch.Text.Pattern

structure Mode where
  ignoreCase : Bool := false
  unicode : Bool := true
  spaced : Bool := false
  deriving DecidableEq, Repr

namespace Mode

def letters : List Char := ['i', 'm', 's', 'U', 'u', 'R', 'x']

def areSwitches (cs : List Char) : Bool :=
  cs.all (fun c => (c = '-' || letters.contains c) && cs.count c = 1) && cs.getLast? ≠ some '-'

def switch (cs : List Char) (letter : Char) (old : Bool) : Bool :=
  if (cs.takeWhile (· ≠ '-')).contains letter then true
  else if cs.contains letter then false
  else old

def switched (m : Mode) (cs : List Char) : Mode where
  ignoreCase := switch cs 'i' m.ignoreCase
  unicode := switch cs 'u' m.unicode
  spaced := switch cs 'x' m.spaced

example : (switched {} "i-u".toList) = ⟨true, false, false⟩ := by decide +kernel

end Mode

end RemoteBatch.Text.Pattern
