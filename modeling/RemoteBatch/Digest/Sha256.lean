import RemoteBatch.Digest.Blocks

/-!
The digest SHA-256. The message schedule is kept as a window of sixteen words: each round uses its
first word and puts the word sixteen rounds later at its end.
-/

namespace RemoteBatch.Sha256

open Digest

structure State where
  a : UInt32
  b : UInt32
  c : UInt32
  d : UInt32
  e : UInt32
  f : UInt32
  g : UInt32
  h : UInt32

def initial : State :=
  ⟨0x6a09e667, 0xbb67ae85, 0x3c6ef372, 0xa54ff53a,
    0x510e527f, 0x9b05688c, 0x1f83d9ab, 0x5be0cd19⟩

def constants : List UInt32 :=
  [0x428a2f98, 0x71374491, 0xb5c0fbcf, 0xe9b5dba5, 0x3956c25b, 0x59f111f1, 0x923f82a4, 0xab1c5ed5,
   0xd807aa98, 0x12835b01, 0x243185be, 0x550c7dc3, 0x72be5d74, 0x80deb1fe, 0x9bdc06a7, 0xc19bf174,
   0xe49b69c1, 0xefbe4786, 0x0fc19dc6, 0x240ca1cc, 0x2de92c6f, 0x4a7484aa, 0x5cb0a9dc, 0x76f988da,
   0x983e5152, 0xa831c66d, 0xb00327c8, 0xbf597fc7, 0xc6e00bf3, 0xd5a79147, 0x06ca6351, 0x14292967,
   0x27b70a85, 0x2e1b2138, 0x4d2c6dfc, 0x53380d13, 0x650a7354, 0x766a0abb, 0x81c2c92e, 0x92722c85,
   0xa2bfe8a1, 0xa81a664b, 0xc24b8b70, 0xc76c51a3, 0xd192e819, 0xd6990624, 0xf40e3585, 0x106aa070,
   0x19a4c116, 0x1e376c08, 0x2748774c, 0x34b0bcb5, 0x391c0cb3, 0x4ed8aa4a, 0x5b9cca4f, 0x682e6ff3,
   0x748f82ee, 0x78a5636f, 0x84c87814, 0x8cc70208, 0x90befffa, 0xa4506ceb, 0xbef9a3f7, 0xc67178f2]

def smallSigma0 (w : UInt32) : UInt32 := rotateRight 7 w ^^^ rotateRight 18 w ^^^ (w >>> 3)
def smallSigma1 (w : UInt32) : UInt32 := rotateRight 17 w ^^^ rotateRight 19 w ^^^ (w >>> 10)
def bigSigma0 (w : UInt32) : UInt32 := rotateRight 2 w ^^^ rotateRight 13 w ^^^ rotateRight 22 w
def bigSigma1 (w : UInt32) : UInt32 := rotateRight 6 w ^^^ rotateRight 11 w ^^^ rotateRight 25 w
def choose (x y z : UInt32) : UInt32 := (x &&& y) ^^^ (~~~x &&& z)
def majority (x y z : UInt32) : UInt32 := (x &&& y) ^^^ (x &&& z) ^^^ (y &&& z)

def State.round (s : State) (k w : UInt32) : State :=
  let t1 := s.h + bigSigma1 s.e + choose s.e s.f s.g + k + w
  let t2 := bigSigma0 s.a + majority s.a s.b s.c
  ⟨t1 + t2, s.a, s.b, s.c, s.d + t1, s.e, s.f, s.g⟩

def slide (ws : List UInt32) : List UInt32 :=
  ws.drop 1 ++ [smallSigma1 (ws.getD 14 0) + ws.getD 9 0 + smallSigma0 (ws.getD 1 0) + ws.getD 0 0]

def rounds : (ks : List UInt32) → (window : List UInt32) → State → State
  | [], _, s => s
  | k :: ks, ws, s => rounds ks (slide ws) (s.round k (ws.getD 0 0))

def State.add (s t : State) : State :=
  ⟨s.a + t.a, s.b + t.b, s.c + t.c, s.d + t.d, s.e + t.e, s.f + t.f, s.g + t.g, s.h + t.h⟩

def compress (s : State) (block : List UInt32) : State := s.add (rounds constants block s)

def State.bytes (s : State) : Bytes := ofWords [s.a, s.b, s.c, s.d, s.e, s.f, s.g, s.h]

def digest (message : Bytes) : Bytes := ((blocks message).foldl compress initial).bytes

example : (digest []).take 4 = [0xe3, 0xb0, 0xc4, 0x42] := by decide +kernel

end RemoteBatch.Sha256
