import Workbench.Json.Skip
import Workbench.Text.Printable

/-!
# Records of optional texts

A record with a fixed list of fields, each a text or absent, is read from an object or from a list
of values in field order. Null is the same as absence, other fields of the object are skipped, and a
field given twice is a flaw.
-/

namespace Workbench
namespace Json

/-- The shape of a record. -/
structure RecordShape where
  /-- How a message names the record. -/
  description : String
  /-- The names of the fields in order. -/
  fields : List String
deriving DecidableEq, Repr

/-- The fields read so far, null ones included. -/
abbrev Fields := List (String × Option String)

namespace Fields

/-- The text of a field. -/
def text? (fields : Fields) (name : String) : Option String :=
  (fields.lookup name).join

end Fields

namespace Reader

/-- Fails because the value ahead is of the wrong type, unless it is flawed itself. -/
def failWrongType {α : Type} (expected : String) : Reader α := do
  match ← peekToken with
  | some 0x6E =>
    word [0x6E, 0x75, 0x6C, 0x6C]
    fail (.wrongType "null" expected)
  | some 0x74 =>
    word [0x74, 0x72, 0x75, 0x65]
    fail (.wrongType "boolean `true`" expected)
  | some 0x66 =>
    word [0x66, 0x61, 0x6C, 0x73, 0x65]
    fail (.wrongType "boolean `false`" expected)
  | some 0x2D =>
    advance
    let number ← Number.read false
    fail (.wrongType number.describe expected)
  | some 0x22 =>
    advance
    let text ← string
    fail (.wrongType ("string " ++ Text.quote text) expected)
  | some 0x5B => fail (.wrongType "sequence" expected)
  | some 0x7B => fail (.wrongType "map" expected)
  | some byte =>
    if 0x30 ≤ byte && byte ≤ 0x39 then
      let number ← Number.read true
      fail (.wrongType number.describe expected)
    else failAhead .expectedValue
  | none => failAhead .expectedValue

/-- Reads a text or null. -/
def optionalText : Reader (Option String) := do
  match ← peekToken with
  | some 0x6E =>
    word [0x6E, 0x75, 0x6C, 0x6C]
    return none
  | some 0x22 =>
    advance
    return some (← string)
  | some _ => failWrongType "a string"
  | none => failAhead .endOfValue

/-- Whether another element of a list follows; consumes the separator before it. -/
def hasElement (first : Bool) : Reader Bool := do
  match ← peekToken with
  | none => failAhead .endOfList
  | some 0x5D => return false
  | some byte =>
    if first then return true
    else if byte = 0x2C then
      advance
      match ← peekToken with
      | some 0x5D => failAhead .trailingComma
      | some _ => return true
      | none => failAhead .endOfValue
    else failAhead .expectedListSeparator

/-- Reads the elements of a list as the fields in order; a shorter list leaves fields out. -/
def elements (first : Bool) : List String → Reader Fields
  | [] => return []
  | name :: more => do
    if ← hasElement first then
      let value ← optionalText
      return (name, value) :: (← elements false more)
    else return []

/-- Consumes the end of a list. -/
def endList : Reader Unit := do
  match ← peekToken with
  | some 0x5D => advance
  | some 0x2C =>
    advance
    match ← peekToken with
    | some 0x5D => failAhead .trailingComma
    | _ => failAhead .trailingCharacters
  | some _ => failAhead .trailingCharacters
  | none => failAhead .endOfList

/-- The name of the next member of an object, if there is one; consumes the separator before it. -/
def memberName? (first : Bool) : Reader (Option String) := do
  match ← peekToken with
  | none => failAhead .endOfObject
  | some 0x7D => return none
  | some byte =>
    if first then
      if byte ≠ 0x22 then failAhead .keyNotString
    else if byte = 0x2C then
      advance
      match ← peekToken with
      | some 0x22 => pure ()
      | some 0x7D => failAhead .trailingComma
      | some _ => failAhead .keyNotString
      | none => failAhead .endOfValue
    else failAhead .expectedObjectSeparator
    advance
    return some (← string)

/-- Consumes the colon after a member's name. -/
def colon : Reader Unit := do
  match ← peekToken with
  | some 0x3A => advance
  | some _ => failAhead .expectedColon
  | none => failAhead .endOfObject

/-- Reads the members of an object; every round consumes at least one byte. -/
def members (shape : RecordShape) : Nat → Bool → Fields → Reader Fields
  | 0, _, _ => failAhead .endOfObject
  | rounds + 1, first, sofar => do
    match ← memberName? first with
    | none => return sofar
    | some name =>
      if name ∈ shape.fields then
        if (sofar.lookup name).isSome then
          -- The flaw is noticed once the end of the object has been looked for.
          if (← peekToken) = some 0x7D then advance
          fail (.duplicateField name)
        colon
        let value ← optionalText
        members shape rounds false (sofar ++ [(name, value)])
      else
        colon
        skipValue
        members shape rounds false sofar

/-- Reads a record and nothing after it. -/
def record (shape : RecordShape) : Reader Fields := do
  let fields ← (do
    match ← peekToken with
    | none => failAhead .endOfValue
    | some 0x5B =>
      advance
      let fields ← elements true shape.fields
      endList
      return fields
    | some 0x7B =>
      advance
      let fields ← members shape ((← get).rest.length + 1) true []
      advance
      return fields
    | some _ => failWrongType shape.description : Reader Fields)
  match ← peekToken with
  | none => return fields
  | some _ => failAhead .trailingCharacters

end Reader
end Json
end Workbench
