/-!
Blank characters (the Unicode property White_Space), trimming, and the lines of a text. A line ends
with a line feed, before which one carriage return is dropped; what follows the last line feed is a
line of its own unless it is empty, and keeps a carriage return.
-/

namespace RemoteBatch.Text

/-- The 25 characters with the property White_Space. -/
def isBlank (c : Char) : Bool :=
  let n := c.toNat
  (9 ≤ n && n ≤ 13) || n == 0x20 || n == 0x85 || n == 0xA0 || n == 0x1680 ||
    (0x2000 ≤ n && n ≤ 0x200A) || n == 0x2028 || n == 0x2029 || n == 0x202F ||
    n == 0x205F || n == 0x3000

def trimStartChars (cs : List Char) : List Char := cs.dropWhile isBlank

def trimEndChars (cs : List Char) : List Char := (cs.reverse.dropWhile isBlank).reverse

def trimChars (cs : List Char) : List Char := trimEndChars (trimStartChars cs)

def trim (s : String) : String := String.ofList (trimChars s.toList)

/-- Cuts behind every `sep`, which stays at the end of its piece. No piece is empty. -/
def splitAfter {α : Type} [BEq α] (sep : α) : List α → List (List α)
  | [] => []
  | a :: t =>
    if a == sep then [a] :: splitAfter sep t
    else match splitAfter sep t with
      | [] => [[a]]
      | piece :: pieces => (a :: piece) :: pieces

def dropLineEnd (piece : List Char) : List Char :=
  if piece.getLast? = some '\n' then
    let line := piece.dropLast
    if line.getLast? = some '\r' then line.dropLast else line
  else piece

def lines (cs : List Char) : List (List Char) := (splitAfter '\n' cs).map dropLineEnd

theorem flatten_splitAfter {α : Type} [BEq α] (sep : α) (cs : List α) :
    (splitAfter sep cs).flatten = cs := by
  induction cs with
  | nil => rfl
  | cons a t ih =>
    rw [splitAfter]
    split
    · simp [ih]
    · split <;> rename_i h <;> rw [h] at ih <;> simp_all

end RemoteBatch.Text
