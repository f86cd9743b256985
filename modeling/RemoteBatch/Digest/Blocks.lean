import RemoteBatch.Text.Utf8

/-!
Numbers as bytes, the most significant first, and what the two digests share: a message is padded to
whole blocks of 64 bytes, a block is sixteen big-endian words, and a digest is written as big-endian
words.
-/

namespace RemoteBatch

namespace BigEndian

def write : (count : Nat) → (n : Nat) → Bytes
  | 0, _ => []
  | count + 1, n => write count (n / 256) ++ [(n % 256).toUInt8]

def value (bs : Bytes) : Nat := bs.foldl (fun n b => n * 256 + b.toNat) 0

@[simp] theorem length_write (count n : Nat) : (write count n).length = count := by
  induction count generalizing n with
  | zero => rfl
  | succ count ih => simp [write, ih]

theorem value_append_singleton (bs : Bytes) (b : UInt8) :
    value (bs ++ [b]) = value bs * 256 + b.toNat := by
  simp [value]

def capacity : (count : Nat) → Nat
  | 0 => 1
  | count + 1 => capacity count * 256

theorem value_write (count n : Nat) (h : n < capacity count) : value (write count n) = n := by
  induction count generalizing n with
  | zero => simp [capacity] at h; simp [write, value, h]
  | succ count ih =>
    rw [write, value_append_singleton, ih _ (by rw [capacity] at h; omega)]
    simp [Nat.toUInt8]
    omega

end BigEndian

namespace Digest

def rotateLeft (n : UInt32) (w : UInt32) : UInt32 := (w <<< n) ||| (w >>> (32 - n))

def rotateRight (n : UInt32) (w : UInt32) : UInt32 := (w >>> n) ||| (w <<< (32 - n))

def word (a b c d : UInt8) : UInt32 :=
  (a.toUInt32 <<< 24) ||| (b.toUInt32 <<< 16) ||| (c.toUInt32 <<< 8) ||| d.toUInt32

def words : Bytes → List UInt32
  | a :: b :: c :: d :: t => word a b c d :: words t
  | _ => []

def ofWords (ws : List UInt32) : Bytes := ws.flatMap fun w => BigEndian.write 4 w.toNat

def padded (message : Bytes) : Bytes :=
  let zeros := (64 - (message.length + 9) % 64) % 64
  message ++ [0x80] ++ List.replicate zeros 0 ++ BigEndian.write 8 (message.length * 8)

def blocksOf : (count : Nat) → List UInt32 → List (List UInt32)
  | 0, _ => []
  | count + 1, ws => ws.take 16 :: blocksOf count (ws.drop 16)

def blocks (message : Bytes) : List (List UInt32) :=
  let bytes := padded message
  blocksOf (bytes.length / 64) (words bytes)

end Digest

end RemoteBatch
