import RemoteBatch.Files.Fault
import RemoteBatch.Files.Path

/-!
A tree of files. A place is the list of names from the root down; a path is read from a working
directory component by component. Besides reading, the program does two things to a tree: it makes
directories and it appends to a file.
-/

namespace RemoteBatch

abbrev Place := List Bytes

inductive Node
  | file (content : Bytes)
  | directory
  deriving DecidableEq, Repr

/-- What stands at each place, the root excepted, which is always a directory. Relative paths start
at the working directory; the home directory is where the user keeps settings. -/
structure FileTree where
  nodes : List (Place × Node) := []
  working : Place := []
  home : Path := []
  deriving Repr

namespace FileTree

def node? (t : FileTree) (p : Place) : Option Node :=
  if p = [] then some .directory else t.nodes.lookup p

def set (t : FileTree) (p : Place) (n : Node) : FileTree :=
  { t with nodes := (p, n) :: t.nodes.filter (·.1 ≠ p) }

theorem lookup_filter_ne {p q : Place} (h : q ≠ p) (ns : List (Place × Node)) :
    (ns.filter (·.1 ≠ p)).lookup q = ns.lookup q := by
  induction ns with
  | nil => rfl
  | cons n ns ih =>
    obtain ⟨r, n⟩ := n
    by_cases hr : r = p
    · have hq : (q == r) = false := by simpa [hr] using h
      rw [List.filter_cons_of_neg (by simpa using hr), List.lookup_cons, hq]
      exact ih
    · rw [List.filter_cons_of_pos (by simpa using hr), List.lookup_cons, List.lookup_cons, ih]

@[simp] theorem node?_set_self (t : FileTree) {p : Place} (n : Node) (h : p ≠ []) :
    (t.set p n).node? p = some n := by
  simp [node?, set, h]

theorem node?_set_of_ne (t : FileTree) {p q : Place} (n : Node) (h : q ≠ p) :
    (t.set p n).node? q = t.node? q := by
  have hq : (q == p) = false := by simpa using h
  by_cases h0 : q = []
  · simp [node?, h0]
  · simp only [node?, set, h0, if_false, List.lookup_cons, hq]
    exact lookup_filter_ne h t.nodes

def maxName : Nat := 255

def maxPath : Nat := 4096

def step (here : Place) (name : Bytes) : Except OsFault Place :=
  if name = Path.self then .ok here
  else if name = Path.above then .ok here.dropLast
  else if name.length > maxName then .error .nameTooLong
  else .ok (here ++ [name])

def walk (t : FileTree) : (here : Place) → List Bytes → Except OsFault Place
  | here, names =>
    match t.node? here, names with
    | none, _ => .error .notFound
    | some (.file _), _ => .error .notDirectory
    | some .directory, [] => .ok here
    | some .directory, name :: rest => do walk t (← step here name) rest

/-- The directory that a path leads to and the last of its names, which for the root is a dot. -/
def approach (t : FileTree) (p : Path) : Except FileFault (Place × Bytes) :=
  if p.contains 0 then .error .nulInPath
  else if p = [] then .error (.os .notFound)
  else if p.length ≥ maxPath then .error (.os .nameTooLong)
  else do
    let names := Path.components p
    let here ← (t.walk (if Path.isAbsolute p then [] else t.working) names.dropLast).mapError .os
    .ok (here, names.getLastD Path.self)

def locate (t : FileTree) (p : Path) : Except FileFault Place := do
  let (here, name) ← t.approach p
  (step here name).mapError .os

def find (t : FileTree) (p : Path) : Except FileFault Node := do
  let place ← t.locate p
  match t.node? place with
  | none => .error (.os .notFound)
  | some (.file content) =>
    if Path.endsInSlash p then .error (.os .notDirectory) else .ok (.file content)
  | some .directory => .ok .directory

/-- The bytes of a file. A directory opens but cannot be read. -/
def read (t : FileTree) (p : Path) : Except FileFault Bytes := do
  match ← t.find p with
  | .file content => .ok content
  | .directory => .error (.os .isDirectory)

def isFile (t : FileTree) (p : Path) : Bool :=
  match t.find p with
  | .ok (.file _) => true
  | _ => false

def isDirectory (t : FileTree) (p : Path) : Bool :=
  match t.find p with
  | .ok .directory => true
  | _ => false

def makeDirectory (t : FileTree) (p : Path) : Except FileFault FileTree := do
  let (here, name) ← t.approach p
  if !Path.isEntry name then .error (.os .exists)
  else
    let place ← (step here name).mapError .os
    match t.node? place with
    | none => .ok (t.set place .directory)
    | some _ => .error (.os .exists)

def ensureDirectory (t : FileTree) (p : Path) : Except FileFault FileTree :=
  match t.makeDirectory p with
  | .ok t => .ok t
  | .error fault => if t.isDirectory p then .ok t else .error fault

/-- Makes a directory for which those that it lies in, the innermost first, may be missing. What has
been made before a fault stays. -/
def ensureAll (t : FileTree) : List Path → FileTree × Except FileFault Unit
  | [] => (t, .ok ())
  | p :: outer =>
    let settle (t : FileTree) : FileTree × Except FileFault Unit :=
      match t.ensureDirectory p with
      | .ok t => (t, .ok ())
      | .error fault => (t, .error fault)
    match settle t with
    | (_, .error (.os .notFound)) =>
      match ensureAll t outer with
      | (t, .ok ()) => settle t
      | failed => failed
    | settled => settled

def makeParents (t : FileTree) (p : Path) : FileTree × Except FileFault Unit :=
  t.ensureAll (Path.parents p)

/-- The place of a file that may be appended to, and what it holds; a missing one is empty. -/
def openAppend (t : FileTree) (p : Path) : Except FileFault (Place × Bytes) := do
  let (here, name) ← t.approach p
  if !Path.isEntry name ∨ Path.endsInSlash p then .error (.os .isDirectory)
  else
    let place ← (step here name).mapError .os
    match t.node? place with
    | some .directory => .error (.os .isDirectory)
    | some (.file content) => .ok (place, content)
    | none => .ok (place, [])

def append (t : FileTree) (p : Path) (addition : Bytes → Bytes) : Except FileFault FileTree := do
  let (place, content) ← t.openAppend p
  .ok (t.set place (.file (content ++ addition content)))

end FileTree

end RemoteBatch
