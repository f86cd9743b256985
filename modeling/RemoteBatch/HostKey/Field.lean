import RemoteBatch.Digest.Blocks

/-!
Fields of a key's binary form: a length in four bytes, then that many bytes. Readers give what they
read and what is left.
-/

namespace RemoteBatch.HostKey

namespace Field

def write (bs : Bytes) : Bytes := BigEndian.write 4 bs.length ++ bs

def maxLength : Nat := 0xFFFFF

def take? (n : Nat) (bs : Bytes) : Option (Bytes × Bytes) :=
  if n ≤ bs.length then some (bs.take n, bs.drop n) else none

def length? (bs : Bytes) : Option (Nat × Bytes) := do
  let (size, rest) ← take? 4 bs
  let n := BigEndian.value size
  if n ≤ maxLength then some (n, rest) else none

def read? (bs : Bytes) : Option (Bytes × Bytes) := do
  let (n, rest) ← length? bs
  take? n rest

def readUpTo? (limit : Nat) (bs : Bytes) : Option (Bytes × Bytes) := do
  let (field, rest) ← read? bs
  if field.length ≤ limit then some (field, rest) else none

def readText? (bs : Bytes) : Option (Bytes × Bytes) := do
  let (field, rest) ← read? bs
  if Utf8.isValid field then some (field, rest) else none

theorem take?_append (bs rest : Bytes) : take? bs.length (bs ++ rest) = some (bs, rest) := by
  simp [take?]

theorem length?_write (bs rest : Bytes) (h : bs.length ≤ maxLength) :
    length? (write bs ++ rest) = some (bs.length, bs ++ rest) := by
  have hv : BigEndian.value (BigEndian.write 4 bs.length) = bs.length :=
    BigEndian.value_write 4 _ (by simp [maxLength] at h; simp [BigEndian.capacity]; omega)
  have ht := take?_append (BigEndian.write 4 bs.length) (bs ++ rest)
  rw [BigEndian.length_write] at ht
  simp [length?, write, ht, hv, h]

theorem read?_write (bs rest : Bytes) (h : bs.length ≤ maxLength) :
    read? (write bs ++ rest) = some (bs, rest) := by
  simp [read?, length?_write bs rest h, take?_append]

end Field

end RemoteBatch.HostKey
