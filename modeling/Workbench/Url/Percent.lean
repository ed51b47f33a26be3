/-!
# Percent encoding

Text becomes part of a URL byte by byte: a byte outside ASCII or in the set of the component is
written as a percent sign and two hexadecimal digits. Each set contains the sets it is built from,
and every set contains the control characters.
-/

namespace Workbench
namespace Url

/-- ASCII characters that a component must encode. -/
abbrev EncodeSet := Char → Bool

namespace EncodeSet

/-- Controls. -/
def controls : EncodeSet := fun c => c.toNat < 0x20 || c.toNat = 0x7F

/-- The set for fragments. -/
def fragment : EncodeSet := fun c => controls c || [' ', '"', '<', '>', '\x60'].contains c

/-- The set for paths. -/
def path : EncodeSet := fun c => fragment c || ['#', '?', '\x7b', '\x7d'].contains c

/-- The set for user names and passwords. -/
def userinfo : EncodeSet := fun c =>
  path c || ['/', ':', ';', '=', '@', '[', '\\', ']', '^', '|'].contains c

/-- The set for queries. -/
def query : EncodeSet := fun c => controls c || [' ', '"', '#', '<', '>'].contains c

/-- The set for queries of the common schemes. -/
def specialQuery : EncodeSet := fun c => query c || c = '\''

end EncodeSet

/-- An uppercase hexadecimal digit. -/
def upperHexDigit (n : Nat) : Char := (Nat.digitChar n).toUpper

/-- A byte as a percent sign and two digits. -/
def percentByte (byte : UInt8) : List Char :=
  ['%', upperHexDigit (byte.toNat / 16), upperHexDigit (byte.toNat % 16)]

/-- One character as part of a component. -/
def encodeCharacter (set : EncodeSet) (c : Char) : List Char :=
  if c.toNat < 0x80 && !set c then [c] else (String.utf8EncodeChar c).flatMap percentByte

/-- The text as part of a component. -/
def encode (set : EncodeSet) (text : List Char) : List Char := text.flatMap (encodeCharacter set)

/-- The value of a hexadecimal digit. -/
def hexValue? (c : Char) : Option Nat :=
  if '0' ≤ c && c ≤ '9' then some (c.toNat - 48)
  else if 'a' ≤ c && c ≤ 'f' then some (c.toNat - 87)
  else if 'A' ≤ c && c ≤ 'F' then some (c.toNat - 55)
  else none

/-- The bytes that the text encodes; a percent sign without two digits stands for itself. -/
def percentDecode : List Char → List UInt8
  | [] => []
  | '%' :: high :: low :: rest =>
    match hexValue? high, hexValue? low with
    | some a, some b => UInt8.ofNat (a * 16 + b) :: percentDecode rest
    | _, _ => 0x25 :: percentDecode (high :: low :: rest)
  | c :: rest => String.utf8EncodeChar c ++ percentDecode rest

end Url
end Workbench
