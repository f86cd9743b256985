import RemoteBatch.Digest.Sha256
import RemoteBatch.HostKey.KeyData
import RemoteBatch.Text.Base64
import RemoteBatch.Text.Lines

/-!
A host key as a line of text: algorithm, key data in Base64 and an optional comment, with one space
between them; and the fingerprint of a key.
-/

namespace RemoteBatch.HostKey

structure PublicKey where
  data : KeyData
  comment : String := ""
  deriving DecidableEq, Repr

namespace PublicKey

def algorithm (k : PublicKey) : Algorithm := k.data.algorithm

def isWordChar (c : Char) : Bool := c.isAlphanum || "+-/=@.".toList.contains c

def word? (cs : List Char) : Option (List Char × List Char) :=
  match cs.dropWhile isWordChar with
  | [] => some (cs, [])
  | ' ' :: rest => some (cs.takeWhile isWordChar, rest)
  | _ => none

/-- Reads a line. The algorithm it names is the one of its key data, which is decoded whole and does
not end in an empty field. -/
def ofLine? (line : String) : Option PublicKey := do
  let (algorithm, rest) ← word? (Text.trimEndChars line.toList)
  let (encoded, comment) ← word? rest
  let data ← (Base64.decode? (Utf8.encodeChars encoded)).bind KeyData.decodeWhole?
  if Utf8.encodeChars algorithm = data.algorithm.label ∧ data.parameters.getLast? ≠ some [] then
    some ⟨data, String.ofList comment⟩
  else none

def line (k : PublicKey) : Bytes :=
  k.algorithm.label ++ [32] ++ Base64.encode k.data.encode ++
    (if k.comment = "" then [] else 32 :: Utf8.encode k.comment)

def fingerprintLabel : String := "SHA256:"

def fingerprint (k : PublicKey) : String :=
  fingerprintLabel ++ Utf8.decodeLossy (Base64.encodeUnpadded (Sha256.digest k.data.encode))

end PublicKey

end RemoteBatch.HostKey
