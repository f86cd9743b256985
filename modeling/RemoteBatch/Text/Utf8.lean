/-!
UTF-8 in both directions. `encode` writes text as bytes. `scan` reads bytes as a list of characters
and of maximal ill-formed parts; the strict reader `decode?` refuses the latter and the lossy
reader `decodeLossy` puts U+FFFD in the place of each.
-/

namespace RemoteBatch

abbrev Bytes := List UInt8

namespace Utf8

def encodeChars (cs : List Char) : Bytes := cs.flatMap String.utf8EncodeChar

def encode (s : String) : Bytes := encodeChars s.toList

def isContinuation (b : UInt8) : Bool := 0x80 ≤ b && b ≤ 0xBF

/-- What a lead byte of a longer sequence announces: the number of bytes that follow and the range
of the first of them, which keeps out overlong forms, surrogates and values past U+10FFFF. -/
def lead? (a : UInt8) : Option (Nat × UInt8 × UInt8) :=
  if 0xC2 ≤ a && a ≤ 0xDF then some (1, 0x80, 0xBF)
  else if a == 0xE0 then some (2, 0xA0, 0xBF)
  else if a == 0xED then some (2, 0x80, 0x9F)
  else if 0xE1 ≤ a && a ≤ 0xEF then some (2, 0x80, 0xBF)
  else if a == 0xF0 then some (3, 0x90, 0xBF)
  else if 0xF1 ≤ a && a ≤ 0xF3 then some (3, 0x80, 0xBF)
  else if a == 0xF4 then some (3, 0x80, 0x8F)
  else none

def payload (b : UInt8) : Nat := b.toNat % 64

/-- Reads one item at the front of `a :: t`: a character, or `none` for a maximal ill-formed part,
and how many bytes of `t` belong to it. -/
def front (a : UInt8) (t : Bytes) : Option Char × Nat :=
  if a < 0x80 then (some (Char.ofNat a.toNat), 0)
  else match lead? a, t with
    | none, _ => (none, 0)
    | some _, [] => (none, 0)
    | some (n, lo, hi), b :: t =>
      if b < lo || hi < b then (none, 0)
      else if n = 1 then (some (Char.ofNat (a.toNat % 32 * 64 + payload b)), 1)
      else match t with
        | [] => (none, 1)
        | c :: t =>
          if !isContinuation c then (none, 1)
          else if n = 2 then
            (some (Char.ofNat (a.toNat % 16 * 4096 + payload b * 64 + payload c)), 2)
          else match t with
            | [] => (none, 2)
            | d :: _ =>
              if !isContinuation d then (none, 2)
              else (some (Char.ofNat
                (a.toNat % 8 * 262144 + payload b * 4096 + payload c * 64 + payload d)), 3)

def scanFrom : Nat → Bytes → List (Option Char)
  | _, [] => []
  | n + 1, _ :: t => scanFrom n t
  | 0, a :: t => (front a t).1 :: scanFrom (front a t).2 t

def scan (bs : Bytes) : List (Option Char) := scanFrom 0 bs

def decodeChars? (bs : Bytes) : Option (List Char) := (scan bs).mapM id

def decode? (bs : Bytes) : Option String := (decodeChars? bs).map String.ofList

def isValid (bs : Bytes) : Bool := (scan bs).all Option.isSome

def decodeLossyChars (bs : Bytes) : List Char := (scan bs).map (·.getD '\ufffd')

def decodeLossy (bs : Bytes) : String := String.ofList (decodeLossyChars bs)

@[simp] theorem encodeChars_append (cs ds : List Char) :
    encodeChars (cs ++ ds) = encodeChars cs ++ encodeChars ds := by
  simp [encodeChars]

@[simp] theorem scan_nil : scan [] = [] := rfl

end Utf8

end RemoteBatch
