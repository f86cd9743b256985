import RemoteBatch.Digest.Blocks

/-!
The digest SHA-1 and the keyed digest HMAC over it, which hashed known-hosts entries use.
-/

namespace RemoteBatch.Sha1

open Digest

structure State where
  a : UInt32
  b : UInt32
  c : UInt32
  d : UInt32
  e : UInt32

def initial : State := ⟨0x67452301, 0xefcdab89, 0x98badcfe, 0x10325476, 0xc3d2e1f0⟩

def mix (t : Nat) (b c d : UInt32) : UInt32 :=
  if t < 20 then ((b &&& c) ||| (~~~b &&& d)) + 0x5a827999
  else if t < 40 then (b ^^^ c ^^^ d) + 0x6ed9eba1
  else if t < 60 then ((b &&& c) ||| (b &&& d) ||| (c &&& d)) + 0x8f1bbcdc
  else (b ^^^ c ^^^ d) + 0xca62c1d6

def State.round (s : State) (t : Nat) (w : UInt32) : State :=
  ⟨rotateLeft 5 s.a + mix t s.b s.c s.d + s.e + w, s.a, rotateLeft 30 s.b, s.c, s.d⟩

def slide (ws : List UInt32) : List UInt32 :=
  ws.drop 1 ++
    [rotateLeft 1 (ws.getD 13 0 ^^^ ws.getD 8 0 ^^^ ws.getD 2 0 ^^^ ws.getD 0 0)]

def rounds : (ts : List Nat) → (window : List UInt32) → State → State
  | [], _, s => s
  | t :: ts, ws, s => rounds ts (slide ws) (s.round t (ws.getD 0 0))

def State.add (s t : State) : State := ⟨s.a + t.a, s.b + t.b, s.c + t.c, s.d + t.d, s.e + t.e⟩

def compress (s : State) (block : List UInt32) : State := s.add (rounds (List.range 80) block s)

def State.bytes (s : State) : Bytes := ofWords [s.a, s.b, s.c, s.d, s.e]

def digest (message : Bytes) : Bytes := ((blocks message).foldl compress initial).bytes

def blockKey (key : Bytes) : Bytes :=
  let key := if key.length > 64 then digest key else key
  key ++ List.replicate (64 - key.length) 0

def hmac (key message : Bytes) : Bytes :=
  let k := blockKey key
  digest (k.map (· ^^^ 0x5c) ++ digest (k.map (· ^^^ 0x36) ++ message))

example : (digest (Utf8.encode "abc")).take 4 = [0xa9, 0x99, 0x3e, 0x36] := by decide +kernel

end RemoteBatch.Sha1
