import RemoteBatch.Text.Utf8

/-!
Algorithms of host keys and the labels that name them.
-/

namespace RemoteBatch.HostKey

inductive Curve
  | nistp256
  | nistp384
  | nistp521
  deriving DecidableEq, Repr

namespace Curve

def name : Curve → String
  | nistp256 => "nistp256"
  | nistp384 => "nistp384"
  | nistp521 => "nistp521"

def size : Curve → Nat
  | nistp256 => 32
  | nistp384 => 48
  | nistp521 => 66

def all : List Curve := [nistp256, nistp384, nistp521]

end Curve

inductive Algorithm
  | dsa
  | ecdsa (curve : Curve)
  | ed25519
  | rsa
  | skEcdsa
  | skEd25519
  | vendor (label : Bytes)
  deriving DecidableEq, Repr

namespace Algorithm

def standard : List (Bytes × Algorithm) :=
  [("ssh-dss", dsa), ("ecdsa-sha2-nistp256", ecdsa .nistp256),
    ("ecdsa-sha2-nistp384", ecdsa .nistp384), ("ecdsa-sha2-nistp521", ecdsa .nistp521),
    ("ssh-ed25519", ed25519), ("ssh-rsa", rsa),
    ("sk-ecdsa-sha2-nistp256@openssh.com", skEcdsa),
    ("sk-ssh-ed25519@openssh.com", skEd25519)].map fun (label, a) => (Utf8.encode label, a)

def aliases : List (Bytes × Algorithm) :=
  [(Utf8.encode "rsa-sha2-256", rsa), (Utf8.encode "rsa-sha2-512", rsa)]

def label : Algorithm → Bytes
  | dsa => Utf8.encode "ssh-dss"
  | ecdsa curve => Utf8.encode ("ecdsa-sha2-" ++ curve.name)
  | ed25519 => Utf8.encode "ssh-ed25519"
  | rsa => Utf8.encode "ssh-rsa"
  | skEcdsa => Utf8.encode "sk-ecdsa-sha2-nistp256@openssh.com"
  | skEd25519 => Utf8.encode "sk-ssh-ed25519@openssh.com"
  | vendor label => label

def atSign : UInt8 := 64

def isVendorLabel (bs : Bytes) : Bool :=
  bs.all (· < 0x80) &&
    match bs.splitOn atSign with
    | [name, domain] => name ≠ [] && domain ≠ []
    | _ => false

def ofLabel? (bs : Bytes) : Option Algorithm :=
  match (standard ++ aliases).lookup bs with
  | some a => some a
  | none => if isVendorLabel bs then some (vendor bs) else none

example : standard.all (fun (bs, a) => a.label == bs) = true := by decide +kernel

end Algorithm

end RemoteBatch.HostKey
