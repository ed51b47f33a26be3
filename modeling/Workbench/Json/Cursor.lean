/-!
# Reading JSON from left to right

A reader consumes the bytes of a text and keeps count of lines and of bytes in the line, so that a
flaw can be reported where it was noticed: after the bytes read so far, or at the byte ahead.
-/

namespace Workbench
namespace Json

/-- What can be wrong with a JSON text. -/
inductive Flaw where
  | endOfList | endOfObject | endOfString | endOfValue
  | expectedColon | expectedListSeparator | expectedObjectSeparator
  | expectedWord | expectedValue
  | invalidEscape | invalidNumber | numberOutOfRange
  | controlCharacter | keyNotString | loneSurrogate | unfinishedPair
  | trailingComma | trailingCharacters
  /-- The value is of another type than the reader needs. -/
  | wrongType (found expected : String)
  /-- The object has the field twice. -/
  | duplicateField (name : String)
deriving DecidableEq, Repr

namespace Flaw

/-- The wording of the flaw. -/
def text : Flaw → String
  | endOfList => "EOF while parsing a list"
  | endOfObject => "EOF while parsing an object"
  | endOfString => "EOF while parsing a string"
  | endOfValue => "EOF while parsing a value"
  | expectedColon => "expected `:`"
  | expectedListSeparator => "expected `,` or `]`"
  | expectedObjectSeparator => "expected `,` or `\x7d`"
  | expectedWord => "expected ident"
  | expectedValue => "expected value"
  | invalidEscape => "invalid escape"
  | invalidNumber => "invalid number"
  | numberOutOfRange => "number out of range"
  | controlCharacter => "control character (\\u0000-\\u001F) found while parsing a string"
  | keyNotString => "key must be a string"
  | loneSurrogate => "lone leading surrogate in hex escape"
  | unfinishedPair => "unexpected end of hex escape"
  | trailingComma => "trailing comma"
  | trailingCharacters => "trailing characters"
  | wrongType found expected => "invalid type: " ++ found ++ ", expected " ++ expected
  | duplicateField name => "duplicate field `" ++ name ++ "`"

end Flaw

/-- The bytes that are left, and where they start. -/
structure Cursor where
  /-- What has not been read yet. -/
  rest : List UInt8
  /-- Line of the next byte, counted from one. -/
  line : Nat
  /-- Bytes read in that line. -/
  column : Nat
deriving DecidableEq, Repr

/-- A flaw and the place where it was noticed. -/
structure Failure where
  /-- What is wrong. -/
  flaw : Flaw
  /-- Line, counted from one. -/
  line : Nat
  /-- Bytes in the line up to the place. -/
  column : Nat
deriving DecidableEq, Repr

namespace Failure

/-- The wording of the failure with its place. -/
def message (failure : Failure) : String :=
  failure.flaw.text ++ " at line " ++ toString failure.line ++ " column " ++
    toString failure.column

end Failure

namespace Cursor

/-- The start of a text. -/
def ofText (text : String) : Cursor := ⟨text.toUTF8.data.toList, 1, 0⟩

/-- The place after the next byte; at the end of the text nothing moves. -/
def next (cursor : Cursor) : Cursor :=
  match cursor.rest with
  | [] => cursor
  | byte :: rest =>
    if byte = 0x0A then ⟨rest, cursor.line + 1, 0⟩ else ⟨rest, cursor.line, cursor.column + 1⟩

/-- The byte separates tokens: space, line feed, tab or carriage return. -/
def isSeparator (byte : UInt8) : Bool :=
  byte = 0x20 || byte = 0x0A || byte = 0x09 || byte = 0x0D

/-- The place of the next token. -/
def skipBlank (cursor : Cursor) : Cursor :=
  (cursor.rest.takeWhile isSeparator).foldl (fun place _ => place.next) cursor

end Cursor

/-- An activity that consumes bytes and may find a flaw. -/
abbrev Reader (α : Type) := EStateM Failure Cursor α

namespace Reader

/-- Reports a flaw noticed in the bytes read so far. -/
def fail {α : Type} (flaw : Flaw) : Reader α := do
  let cursor ← get
  throw ⟨flaw, cursor.line, cursor.column⟩

/-- Reports a flaw noticed at the byte ahead. -/
def failAhead {α : Type} (flaw : Flaw) : Reader α := do
  let cursor ← get
  throw ⟨flaw, cursor.next.line, cursor.next.column⟩

/-- The byte ahead, without consuming it. -/
def peek : Reader (Option UInt8) := return (← get).rest.head?

/-- Consumes the byte ahead. -/
def advance : Reader Unit := modify Cursor.next

/-- Consumes the byte ahead and gives it. -/
def take : Reader (Option UInt8) := do
  let byte ← peek
  advance
  return byte

/-- Consumes separators and gives the byte ahead. -/
def peekToken : Reader (Option UInt8) := do
  modify Cursor.skipBlank
  peek

/-- Consumes digits and gives them. -/
def digits : Reader (List Nat) := do
  let cursor ← get
  let bytes := cursor.rest.takeWhile fun byte => 0x30 ≤ byte && byte ≤ 0x39
  set (bytes.foldl (fun place _ => place.next) cursor)
  return bytes.map fun byte => byte.toNat - 0x30

/-- Consumes the bytes of a word, all of which have to follow. -/
def word : List UInt8 → Reader Unit
  | [] => return
  | expected :: more => do
    match ← take with
    | none => fail .endOfValue
    | some byte => if byte = expected then word more else fail .expectedWord

/-- Runs the reader on a whole text. -/
def run {α : Type} (reader : Reader α) (text : String) : Except Failure α :=
  match EStateM.run reader (Cursor.ofText text) with
  | .ok value _ => .ok value
  | .error failure _ => .error failure

end Reader
end Json
end Workbench
