import RemoteBatch.Files.Tree
import RemoteBatch.Settings.KeyValue
import RemoteBatch.Text.Graphic

/-!
Settings from a file. The file is the one named, or else the one with the ending `.conf` added to
the name; its text holds `key=value` lines, of which five keys are known.
-/

namespace RemoteBatch.Settings

structure FileSettings where
  host : Option String := none
  port : Option Nat := none
  user : Option String := none
  password : Option String := none
  timeout : Option Nat := none
  deriving DecidableEq, Repr

namespace FileSettings

inductive Fault
  | notFound (name : String)
  | unreadable (fault : FileFault)
  | structuredText (shape : KeyValue.Shape) (key : String)
  | structuredNumber (shape : KeyValue.Shape) (key : String)
  | notNumber (value key origin : String)
  | tooLarge (value : Nat) (key : String)
  deriving DecidableEq, Repr

def shapeName : KeyValue.Shape → String
  | .scalar => "string"
  | .map => "map"
  | .sequence => "sequence"

def Fault.message : Fault → String
  | .notFound name => s!"configuration file \"{name}\" not found"
  | .unreadable fault => fault.message
  | .structuredText shape key =>
    s!"invalid type: {shapeName shape}, expected a string for key `{key}`"
  | .structuredNumber shape key =>
    s!"invalid type: {shapeName shape}, expected an integer for key `{key}`"
  | .notNumber value key origin =>
    s!"invalid type: string {Text.quote value}, expected an integer for key `{key}` in {origin}"
  | .tooLarge value key =>
    s!"invalid type: 64-bit unsigned integer `{value}`, expected an unsigned 16 bit integer " ++
      s!"for key `{key}`"

def textAt (pairs : List KeyValue) (key : String) : Except Fault (Option String) :=
  match KeyValue.find pairs key with
  | .absent => .ok none
  | .text s => .ok (some s)
  | .structured shape => .error (.structuredText shape key)

def wordValue? (s : String) : Option Nat :=
  let word := s.toLower
  if ["true", "on", "yes"].contains word then some 1
  else if ["false", "off", "no"].contains word then some 0
  else none

def numberOf? (s : String) : Option Nat :=
  match wordValue? s with
  | some n => some n
  | none => (Decimal.readNat Decimal.maxUInt64 s.toList).toOption

def numberAt (origin : String) (pairs : List KeyValue) (key : String) :
    Except Fault (Option Nat) :=
  match KeyValue.find pairs key with
  | .absent => .ok none
  | .structured shape => .error (.structuredNumber shape key)
  | .text s =>
    match numberOf? s with
    | some n => .ok (some n)
    | none => .error (.notNumber s key origin)

def portAt (origin : String) (pairs : List KeyValue) (key : String) :
    Except Fault (Option Nat) := do
  match ← numberAt origin pairs key with
  | none => .ok none
  | some n => if n ≤ Decimal.maxUInt16 then .ok (some n) else .error (.tooLarge n key)

def ofText (origin : String) (text : List Char) : Except Fault FileSettings := do
  let pairs := KeyValue.ofText text
  .ok
    { host := ← textAt pairs "router_ip"
      port := ← portAt origin pairs "router_port"
      user := ← textAt pairs "username"
      password := ← textAt pairs "password"
      timeout := ← numberAt origin pairs "timeout" }

def byteOrderMark : Bytes := [0xEF, 0xBB, 0xBF]

/-- The text of a file: one byte-order mark is skipped and ill-formed bytes are replaced. -/
def decode (content : Bytes) : List Char :=
  Utf8.decodeLossyChars
    (if byteOrderMark.isPrefixOf content then content.drop byteOrderMark.length else content)

def pathOf (p : Place) : Path := p.flatMap (Path.slash :: ·)

def absolute (t : FileTree) (p : Path) : Path :=
  if Path.isAbsolute p then p else pathOf t.working ++ Path.slash :: p

def wayFrom : (base : List Bytes) → List Bytes → List Bytes
  | b :: base, n :: rest =>
    if b = n then wayFrom base rest
    else (b :: base).map (fun _ => Path.above) ++ n :: rest
  | base, rest => base.map (fun _ => Path.above) ++ rest

def slashed : List Bytes → Bytes
  | [] => []
  | [n] => n
  | n :: rest => n ++ Path.slash :: slashed rest

def origin (t : FileTree) (p : Path) : String :=
  Utf8.decodeLossy (slashed (wayFrom t.working (Path.names (absolute t p))))

def conf : Bytes := Utf8.encode ".conf"

def placeholder : Bytes := Utf8.encode ".placeholder"

/-- The path with `.conf` added to its last name. A name with an ending keeps what stands behind it
in the path; a path that names no file keeps its form. -/
def withConf (p : Path) : Path :=
  match Path.fileName? p with
  | none => p
  | some name =>
    if !name.tail.contains Path.dot then Path.trimmed p ++ conf
    else if Path.endsInSlash p then p ++ placeholder ++ conf
    else p ++ conf

def locate (t : FileTree) (name : String) : Except Fault Path :=
  let path := absolute t (Utf8.encode name)
  if t.isFile path then .ok path
  else if t.isFile (withConf path) then .ok (withConf path)
  else .error (.notFound name)

def load (t : FileTree) (p : Path) : Except Fault FileSettings := do
  let path ← locate t (Utf8.decodeLossy p)
  let content ← (t.read path).mapError .unreadable
  ofText (origin t path) (decode content)

end FileSettings

end RemoteBatch.Settings
