import RemoteBatch.HostKey.Algorithm
import RemoteBatch.HostKey.Field

/-!
Public keys in binary form: the label of the algorithm and its parameters, each a field. Reading
checks the shape of every parameter and leaves what follows the last one.
-/

namespace RemoteBatch.HostKey

inductive KeyData
  | dsa (p q g y : Bytes)
  | ecdsa (curve : Curve) (point : Bytes)
  | ed25519 (key : Bytes)
  | rsa (e n : Bytes)
  | skEcdsa (point application : Bytes)
  | skEd25519 (key application : Bytes)
  | vendor (label key : Bytes)
  deriving DecidableEq, Repr

namespace KeyData

def algorithm : KeyData → Algorithm
  | dsa .. => .dsa
  | ecdsa curve _ => .ecdsa curve
  | ed25519 _ => .ed25519
  | rsa .. => .rsa
  | skEcdsa .. => .skEcdsa
  | skEd25519 .. => .skEd25519
  | vendor label _ => .vendor label

def parameters : KeyData → List Bytes
  | dsa p q g y => [p, q, g, y]
  | ecdsa curve point => [Utf8.encode curve.name, point]
  | ed25519 key => [key]
  | rsa e n => [e, n]
  | skEcdsa point application => [Utf8.encode Curve.nistp256.name, point, application]
  | skEd25519 key application => [key, application]
  | vendor _ key => [key]

def encode (k : KeyData) : Bytes := (k.algorithm.label :: k.parameters).flatMap Field.write

def isShortest : Bytes → Bool
  | [0] => false
  | 0 :: b :: _ => 0x80 ≤ b
  | _ => true

def readInteger? (bs : Bytes) : Option (Bytes × Bytes) := do
  let (n, rest) ← Field.read? bs
  if isShortest n then some (n, rest) else none

/-- A field that holds a key of 32 bytes; bytes beyond them are not part of it. -/
def readKey32? (bs : Bytes) : Option (Bytes × Bytes) := do
  let (n, rest) ← Field.length? bs
  if n < 32 then none else Field.take? 32 rest

def isPoint (size : Nat) (point : Bytes) : Bool :=
  match point with
  | [] => false
  | tag :: coordinates =>
    ((tag == 2 || tag == 3) && coordinates.length = size) ||
      (tag == 4 && coordinates.length = 2 * size)

/-- Besides the common forms, a security key may name the point at infinity (tag 0) and write a
compact point (tag 5). -/
def isSecurityKeyPoint (point : Bytes) : Bool :=
  point = [0] || isPoint 32 point || (point.head? = some 5 && point.length = 33)

def maxPointLength : Nat := 133

def maxSecurityKeyPointLength : Nat := 65

def maxLabelLength : Nat := 48

def readCurve? (bs : Bytes) : Option (Curve × Bytes) := do
  let (name, rest) ← Field.read? bs
  let curve ← Curve.all.find? fun c => Utf8.encode c.name = name
  some (curve, rest)

def readParameters? (a : Algorithm) (bs : Bytes) : Option (KeyData × Bytes) :=
  match a with
  | .dsa => do
    let (p, bs) ← readInteger? bs
    let (q, bs) ← readInteger? bs
    let (g, bs) ← readInteger? bs
    let (y, bs) ← readInteger? bs
    some (dsa p q g y, bs)
  | .ecdsa curve => do
    let (named, bs) ← readCurve? bs
    let (point, bs) ← Field.readUpTo? maxPointLength bs
    if named = curve ∧ isPoint curve.size point then some (ecdsa curve point, bs) else none
  | .ed25519 => do
    let (key, bs) ← readKey32? bs
    some (ed25519 key, bs)
  | .rsa => do
    let (e, bs) ← readInteger? bs
    let (n, bs) ← readInteger? bs
    some (rsa e n, bs)
  | .skEcdsa => do
    let (named, bs) ← readCurve? bs
    let (point, bs) ← Field.readUpTo? maxSecurityKeyPointLength bs
    let (application, bs) ← Field.readText? bs
    if named = .nistp256 ∧ isSecurityKeyPoint point then some (skEcdsa point application, bs)
    else none
  | .skEd25519 => do
    let (key, bs) ← readKey32? bs
    let (application, bs) ← Field.readText? bs
    some (skEd25519 key application, bs)
  | .vendor label => do
    let (key, bs) ← Field.read? bs
    some (vendor label key, bs)

def decode? (bs : Bytes) : Option (KeyData × Bytes) := do
  let (label, bs) ← Field.readUpTo? maxLabelLength bs
  let a ← Algorithm.ofLabel? label
  readParameters? a bs

def decodeWhole? (bs : Bytes) : Option KeyData := do
  let (k, rest) ← decode? bs
  if rest = [] then some k else none

theorem algorithm_of_readParameters? {a : Algorithm} {bs rest : Bytes} {k : KeyData}
    (h : readParameters? a bs = some (k, rest)) : k.algorithm = a := by
  cases a <;> simp only [readParameters?, Option.bind_eq_bind, Option.bind_eq_some_iff] at h <;>
    grind [algorithm]

end KeyData

end RemoteBatch.HostKey
