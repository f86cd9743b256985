import RemoteBatch.Text.Utf8

/-!
Paths as they are written: names with slashes between them. A dot names the directory itself and two
dots the one above it.
-/

namespace RemoteBatch

abbrev Path := Bytes

namespace Path

def slash : UInt8 := 47

def dot : UInt8 := 46

def self : Bytes := [dot]

def above : Bytes := [dot, dot]

def isEntry (name : Bytes) : Bool := name ≠ self && name ≠ above

def components (p : Path) : List Bytes := (p.splitOn slash).filter (· ≠ [])

def names (p : Path) : List Bytes := (components p).filter (· ≠ self)

def fileName? (p : Path) : Option Bytes :=
  match (names p).getLast? with
  | some name => if name = above then none else some name
  | none => none

def isAbsolute (p : Path) : Bool := p.head? == some slash

def endsInSlash (p : Path) : Bool := p.getLast? == some slash

def reaches (walked : Path) : List Bytes → List Path
  | [] => []
  | name :: rest =>
    let here := walked ++ slash :: name
    if name = [] ∨ name = self then reaches here rest else reaches here rest ++ [here]

/-- The path without slashes and dots behind its last name, and the directories that it goes
through, the innermost first. -/
def ancestors (p : Path) : List Path :=
  if p = [] then []
  else match p.splitOn slash with
    | [] => []
    | first :: rest => reaches first rest ++ [if first = [] then [slash] else first]

def parents (p : Path) : List Path := (ancestors p).tail

def trimmed (p : Path) : Path := (ancestors p).headD []

example : ancestors (Utf8.encode "/a/./b//c/.") =
    ["/a/./b//c", "/a/./b", "/a", "/"].map Utf8.encode := by decide +kernel
example : ancestors (Utf8.encode "./a") = ["./a", "."].map Utf8.encode := by decide +kernel

end Path

end RemoteBatch
