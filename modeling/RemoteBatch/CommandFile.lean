import RemoteBatch.Command
import RemoteBatch.Files.Tree
import RemoteBatch.Text.Lines

/-!
Command lists from files. A commands file has one command per line, with blank lines and `#`
comments between them.
-/

namespace RemoteBatch

namespace Command

def isCommandLine (line : List Char) : Bool := !line.isEmpty && line.head? != some '#'

def ofText (text : String) : List String :=
  (((Text.lines text.toList).map Text.trimChars).filter isCommandLine).map String.ofList

end Command

def FileTree.readText (t : FileTree) (p : Path) : Except FileFault String := do
  match Utf8.decode? (← t.read p) with
  | some text => .ok text
  | none => .error .notUtf8

namespace CommandFile

inductive Fault
  | unreadable (path : Path) (fault : FileFault)
  | commands (fault : Command.Fault)
  deriving DecidableEq, Repr

def Fault.message : Fault → String
  | .unreadable path fault =>
    s!"Cannot read commands file {Utf8.decodeLossy path}: {fault.message}"
  | .commands fault => fault.message

def read (t : FileTree) (p : Path) : Except Fault (List String) := do
  let text ← (t.readText p).mapError (.unreadable p)
  (Command.sanitizeAll (Command.ofText text)).mapError .commands

end CommandFile

end RemoteBatch
