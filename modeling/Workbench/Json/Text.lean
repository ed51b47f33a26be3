import Workbench.Json.Cursor

/-!
# JSON strings

A string is read up to its closing quote. Escapes by code unit may come in pairs that make up one
character; half of a pair alone is a flaw. A string that nobody needs is skipped with fewer checks:
its code units need not pair.
-/

namespace Workbench
namespace Json
namespace Reader

/-- The value of a hexadecimal digit. -/
def hexDigit? (byte : UInt8) : Option Nat :=
  if 0x30 ≤ byte && byte ≤ 0x39 then some (byte.toNat - 0x30)
  else if 0x61 ≤ byte && byte ≤ 0x66 then some (byte.toNat - 0x61 + 10)
  else if 0x41 ≤ byte && byte ≤ 0x46 then some (byte.toNat - 0x41 + 10)
  else none

/-- Reads the four hexadecimal digits of a code unit. -/
def codeUnit : Reader Nat := do
  match (← get).rest with
  | a :: b :: c :: d :: _ =>
    advance; advance; advance; advance
    match hexDigit? a, hexDigit? b, hexDigit? c, hexDigit? d with
    | some a, some b, some c, some d => return ((a * 16 + b) * 16 + c) * 16 + d
    | _, _, _, _ => fail .invalidEscape
  | short =>
    short.forM fun _ => advance
    fail .endOfString

/-- The code unit is the first half of a pair. -/
def isLeading (unit : Nat) : Bool := 0xD800 ≤ unit && unit ≤ 0xDBFF

/-- The code unit is the second half of a pair. -/
def isTrailing (unit : Nat) : Bool := 0xDC00 ≤ unit && unit ≤ 0xDFFF

/-- Consumes a byte that has to follow the first half of a pair. -/
def pairByte (expected : UInt8) : Reader Unit := do
  match ← peek with
  | none => fail .endOfString
  | some byte =>
    advance
    if byte ≠ expected then fail .unfinishedPair

/-- Reads an escape by code unit after its letter. -/
def unicodeEscape : Reader Char := do
  let unit ← codeUnit
  if isTrailing unit then fail .loneSurrogate
  else if isLeading unit then
    pairByte 0x5C
    pairByte 0x75
    let second ← codeUnit
    if isTrailing second then
      return Char.ofNat ((unit - 0xD800) * 0x400 + (second - 0xDC00) + 0x10000)
    else fail .loneSurrogate
  else return Char.ofNat unit

/-- The character of an escape with a single letter. -/
def letterEscape? (letter : UInt8) : Option Char :=
  if letter = 0x22 then some '"'
  else if letter = 0x5C then some '\\'
  else if letter = 0x2F then some '/'
  else if letter = 0x62 then some '\x08'
  else if letter = 0x66 then some '\x0c'
  else if letter = 0x6E then some '\n'
  else if letter = 0x72 then some '\r'
  else if letter = 0x74 then some '\t'
  else none

/-- Reads an escape after its backslash. -/
def escape : Reader Char := do
  match ← take with
  | none => fail .endOfString
  | some letter =>
    if letter = 0x75 then unicodeEscape
    else match letterEscape? letter with
      | some c => return c
      | none => fail .invalidEscape

/-- Reads the bytes of a string after its opening quote. Every round consumes a byte, so a round for
each byte that is left is enough. -/
def stringBytes : Nat → ByteArray → Reader ByteArray
  | 0, _ => fail .endOfString
  | rounds + 1, sofar => do
    match ← take with
    | none => fail .endOfString
    | some byte =>
      if byte = 0x22 then return sofar
      else if byte = 0x5C then
        let c ← escape
        stringBytes rounds (sofar ++ (String.singleton c).toUTF8)
      else if byte < 0x20 then fail .controlCharacter
      else stringBytes rounds (sofar.push byte)

/-- Reads a string after its opening quote. -/
def string : Reader String := do
  let bytes ← stringBytes ((← get).rest.length + 1) .empty
  return (String.fromUTF8? bytes).getD ""

/-- Consumes the rest of a string that nobody needs; every round consumes a byte. -/
def skipStringFor : Nat → Reader Unit
  | 0 => fail .endOfString
  | rounds + 1 => do
    match ← peek with
    | none => fail .endOfString
    | some byte =>
      if byte < 0x20 then fail .controlCharacter
      else
        advance
        if byte = 0x22 then return
        else if byte = 0x5C then
          match ← take with
          | none => fail .endOfString
          | some letter =>
            if letter = 0x75 then discard codeUnit
            else if (letterEscape? letter).isNone then fail .invalidEscape
            skipStringFor rounds
        else skipStringFor rounds

/-- Consumes the rest of a string that nobody needs. -/
def skipString : Reader Unit := do
  skipStringFor ((← get).rest.length + 1)

end Reader
end Json
end Workbench
