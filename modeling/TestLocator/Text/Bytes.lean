/-!
# Bytes

* `Bytes`, `encode`, `decode?` — texts as bytes in UTF-8;
* `validLength` — how many bytes from the front are whole characters;
* `byteLength` — the bytes of a text.
-/

namespace TestLocator.Text

/-- A string of bytes. -/
abbrev Bytes := List UInt8

/-- The bytes of a text. -/
def encode (cs : List Char) : Bytes := cs.flatMap String.utf8EncodeChar

/-- The text that some bytes are, if they are one. -/
def decode? (bs : Bytes) : Option (List Char) := (bs.toByteArray.utf8Decode?).map Array.toList

theorem decode?_encode (cs : List Char) : decode? (encode cs) = some cs := by
  change (cs.utf8Encode.utf8Decode?).map Array.toList = some cs
  rw [List.utf8Decode?_utf8Encode]
  simp

/-- The number of bytes of a text. -/
def byteLength (cs : List Char) : Nat := cs.foldl (fun n c => n + c.utf8Size) 0

/-- The end of the whole characters from a place on, in `fuel` steps. -/
def validEnd (bs : ByteArray) : Nat → Nat → Nat
  | 0, i => i
  | fuel + 1, i =>
    match bs.utf8DecodeChar? i with
    | some c => validEnd bs fuel (i + c.utf8Size)
    | none => i

/-- How many bytes from the front are whole characters. -/
def validLength (bs : Bytes) : Nat := validEnd bs.toByteArray bs.length 0

end TestLocator.Text
