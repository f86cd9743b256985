import RemoteBatch.Text.Utf8

/-!
Base64 with the standard alphabet. Reading is canonical: the unused low bits of the last symbol of a
padded quartet are zero. The plain form is one unbroken run with padding at its end only; the MIME
form skips line breaks and allows padding at the end of any quartet.
-/

namespace RemoteBatch.Base64

def symbol (n : Nat) : UInt8 :=
  if n < 26 then (65 + n).toUInt8
  else if n < 52 then (97 + (n - 26)).toUInt8
  else if n < 62 then (48 + (n - 52)).toUInt8
  else if n = 62 then 43
  else 47

def value? (b : UInt8) : Option Nat :=
  if 65 ≤ b && b ≤ 90 then some (b.toNat - 65)
  else if 97 ≤ b && b ≤ 122 then some (b.toNat - 97 + 26)
  else if 48 ≤ b && b ≤ 57 then some (b.toNat - 48 + 52)
  else if b == 43 then some 62
  else if b == 47 then some 63
  else none

def pad : UInt8 := 61

def encodeUnpadded : Bytes → Bytes
  | [] => []
  | [a] => [symbol (a.toNat / 4), symbol (a.toNat % 4 * 16)]
  | [a, b] =>
    [symbol (a.toNat / 4), symbol (a.toNat % 4 * 16 + b.toNat / 16), symbol (b.toNat % 16 * 4)]
  | a :: b :: c :: t =>
    symbol (a.toNat / 4) :: symbol (a.toNat % 4 * 16 + b.toNat / 16) ::
      symbol (b.toNat % 16 * 4 + c.toNat / 64) :: symbol (c.toNat % 64) :: encodeUnpadded t

def encode (bs : Bytes) : Bytes :=
  let body := encodeUnpadded bs
  body ++ List.replicate ((4 - body.length % 4) % 4) pad

def fullQuartet? (a b c d : UInt8) : Option Bytes := do
  let a ← value? a
  let b ← value? b
  let c ← value? c
  let d ← value? d
  return [(a * 4 + b / 16).toUInt8, (b % 16 * 16 + c / 4).toUInt8, (c % 4 * 64 + d).toUInt8]

def quartet? (a b c d : UInt8) : Option Bytes :=
  if d != pad then fullQuartet? a b c d
  else if c != pad then do
    let a ← value? a
    let b ← value? b
    let c ← value? c
    if c % 4 ≠ 0 then none
    return [(a * 4 + b / 16).toUInt8, (b % 16 * 16 + c / 4).toUInt8]
  else do
    let a ← value? a
    let b ← value? b
    if b % 16 ≠ 0 then none
    return [(a * 4 + b / 16).toUInt8]

def decode? : Bytes → Option Bytes
  | [] => some []
  | [a, b, c, d] => quartet? a b c d
  | a :: b :: c :: d :: t => do
    let bytes ← fullQuartet? a b c d
    return bytes ++ (← decode? t)
  | _ => none

/-- Whole quartets, each of which may be padded. -/
def decodeQuartets? : Bytes → Option Bytes
  | [] => some []
  | a :: b :: c :: d :: t => do
    let bytes ← quartet? a b c d
    return bytes ++ (← decodeQuartets? t)
  | _ => none

def isLineBreak (b : UInt8) : Bool := b == 10 || b == 13

def decodeMime? (bs : Bytes) : Option Bytes := decodeQuartets? (bs.filter (!isLineBreak ·))

example : encode (Utf8.encode "light w") = Utf8.encode "bGlnaHQgdw==" := by decide +kernel
example : decode? (Utf8.encode "bGlnaHQgdw==") = some (Utf8.encode "light w") := by decide +kernel
example : decode? (Utf8.encode "bGlnaHQgdx==") = none := by decide +kernel
example : decodeMime? (Utf8.encode "QQ==\r\nQQ==\n") = some [65, 65] := by decide +kernel
example : decodeMime? (Utf8.encode "QQQQ====") = none := by decide +kernel

end RemoteBatch.Base64
