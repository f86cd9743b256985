import RemoteBatch.Digest.Sha1
import RemoteBatch.Files.Tree
import RemoteBatch.HostKey.PublicKey
import RemoteBatch.Text.Lines

/-!
Known-hosts files. An entry is a line of three or more parts with one space between them: a list of
hosts, a word that is not looked at, and a key. `lookup` reads all entries for a name before it
decides; `learn` adds an entry at the end.
-/

namespace RemoteBatch.HostKey

namespace KnownHosts

def name (host : String) (port : Nat) : String :=
  if port = 22 then host else s!"[{host}]:{port}"

def space : UInt8 := 32

def comma : UInt8 := 44

def bar : UInt8 := 124

def hash : UInt8 := 35

def lineFeed : UInt8 := 10

def hashedStart : Bytes := [bar, 49, bar]

def isDigestOf (name salt digest : Bytes) : Bool :=
  match Base64.decodeMime? salt, Base64.decodeMime? digest with
  | some salt, some digest => Sha1.hmac salt name = digest
  | _, _ => false

def hostMatches (name host : Bytes) : Bool :=
  if hashedStart.isPrefixOf host then
    match (host.splitOn bar).drop 2 with
    | salt :: digest :: _ => isDigestOf name salt digest
    | _ => false
  else host = name

def listMatches (name hosts : Bytes) : Bool := (hosts.splitOn comma).any (hostMatches name)

def keyText? (name line : Bytes) : Option Bytes :=
  match line.splitOn space with
  | hosts :: _ :: key :: _ => if listMatches name hosts then some key else none
  | _ => none

inductive Fault
  | unreadable (fault : FileFault)
  | badEncoding
  | badKey
  deriving DecidableEq, Repr

def Fault.message : Fault → String
  | .unreadable fault => fault.message
  | .badEncoding => "Base64 decoding error"
  | .badKey => "SshKey"

def decodeKey (text : Bytes) : Except Fault KeyData :=
  match Base64.decodeMime? text with
  | none => .error .badEncoding
  | some bytes =>
    match KeyData.decode? bytes with
    | none => .error .badKey
    | some (key, _) => .ok key

/-- The keys of the entries for `name` with their line numbers; lines are numbered from `n`, and
those that start with `#` are neither read nor numbered. -/
def entriesFrom (name : Bytes) : (n : Nat) → List Bytes → Except Fault (List (Nat × KeyData))
  | _, [] => .ok []
  | n, line :: rest =>
    if !Utf8.isValid line then .error (.unreadable .notUtf8)
    else if line.head? = some hash then entriesFrom name n rest
    else match keyText? name line with
      | none => entriesFrom name (n + 1) rest
      | some text => do
        let key ← decodeKey text
        let entries ← entriesFrom name (n + 1) rest
        .ok ((n, key) :: entries)

def entries (name content : Bytes) : Except Fault (List (Nat × KeyData)) :=
  entriesFrom name 1 (Text.splitAfter lineFeed content)

inductive Lookup
  | recorded
  | unknown
  | changed (line : Nat)
  | failed (fault : Fault)
  deriving DecidableEq, Repr

/-- Whether an entry has the algorithm of the presented key without being that key; an entry has no
comment, so a key with a comment differs from every entry. -/
def differs (key : PublicKey) (recorded : KeyData) : Bool :=
  recorded.algorithm = key.algorithm && key ≠ ⟨recorded, ""⟩

def judge (key : PublicKey) (entries : List (Nat × KeyData)) : Lookup :=
  match entries.find? (differs key ·.2) with
  | some (line, _) => .changed line
  | none => if entries.any (fun e => key = ⟨e.2, ""⟩) then .recorded else .unknown

def lookupIn (content : Bytes) (name : String) (key : PublicKey) : Lookup :=
  match entries (Utf8.encode name) content with
  | .error fault => .failed fault
  | .ok entries => judge key entries

def content (t : FileTree) (p : Path) : Except FileFault Bytes :=
  match t.find p with
  | .error _ => .ok []
  | .ok .directory => .error (.os .isDirectory)
  | .ok (.file content) => .ok content

def lookup (t : FileTree) (p : Path) (name : String) (key : PublicKey) : Lookup :=
  match content t p with
  | .error fault => .failed (.unreadable fault)
  | .ok content => lookupIn content name key

def entryLine (name : String) (key : PublicKey) : Bytes :=
  Utf8.encode name ++ [space] ++ key.line ++ [lineFeed]

def addition (name : String) (key : PublicKey) (content : Bytes) : Bytes :=
  (if content.getLast? = some lineFeed then [] else [lineFeed]) ++ entryLine name key

def learn (t : FileTree) (p : Path) (name : String) (key : PublicKey) :
    FileTree × Except FileFault Unit :=
  match t.makeParents p with
  | (t, .error fault) => (t, .error fault)
  | (t, .ok ()) =>
    match t.append p (addition name key) with
    | .error fault => (t, .error fault)
    | .ok t => (t, .ok ())

end KnownHosts

end RemoteBatch.HostKey
