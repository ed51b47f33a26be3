import Workbench.Json.Number
import Workbench.Json.Text

/-!
# Skipping JSON values

A value that nobody needs is consumed with the brackets that are still open kept on a stack, so
that nesting has no limit.
-/

namespace Workbench
namespace Json

/-- A bracket that is open. -/
inductive Bracket where
  /-- A list. -/
  | list
  /-- An object. -/
  | object
deriving DecidableEq, Repr

namespace Reader

/-- Consumes a key with its colon, up to where the value starts. -/
def skipKey : Reader Unit := do
  match ← peekToken with
  | some 0x22 =>
    advance
    skipString
    match ← peekToken with
    | some 0x3A => advance
    | some _ => failAhead .expectedColon
    | none => failAhead .endOfObject
  | some _ => failAhead .keyNotString
  | none => failAhead .endOfObject

/-- Consumes closing brackets after a value or an opening bracket, until another value has to
follow. Gives the brackets that are still open; none when the whole value has ended. -/
def skipClosings : Bool → List Bracket → Reader (List Bracket)
  | _, [] => return []
  | separated, bracket :: outer => do
    match bracket, ← peekToken with
    | .list, some 0x5D => advance; skipClosings true outer
    | .object, some 0x7D => advance; skipClosings true outer
    | _, some byte =>
      if separated then
        if byte = 0x2C then advance
        else failAhead (match bracket with
          | .list => .expectedListSeparator
          | .object => .expectedObjectSeparator)
      if bracket = .object then skipKey
      return bracket :: outer
    | .list, none => failAhead .endOfList
    | .object, none => failAhead .endOfObject

/-- Consumes a value inside the open brackets and everything up to their ends. Every round consumes
a byte. -/
def skipValueFor : Nat → List Bracket → Reader Unit
  | 0, _ => failAhead .endOfValue
  | rounds + 1, brackets => do
    let opened ← (do
      match ← peekToken with
      | none => failAhead .endOfValue
      | some 0x6E => word [0x6E, 0x75, 0x6C, 0x6C]; return none
      | some 0x74 => word [0x74, 0x72, 0x75, 0x65]; return none
      | some 0x66 => word [0x66, 0x61, 0x6C, 0x73, 0x65]; return none
      | some 0x2D => advance; Number.skip; return none
      | some 0x22 => advance; skipString; return none
      | some 0x5B => advance; return some Bracket.list
      | some 0x7B => advance; return some Bracket.object
      | some byte =>
        if 0x30 ≤ byte && byte ≤ 0x39 then
          Number.skip
          return none
        else failAhead .expectedValue : Reader (Option Bracket))
    let remaining ← match opened with
      | none => skipClosings true brackets
      | some bracket => skipClosings false (bracket :: brackets)
    if remaining.isEmpty then return
    else skipValueFor rounds remaining

/-- Consumes a value. -/
def skipValue : Reader Unit := do
  skipValueFor ((← get).rest.length + 1) []

end Reader
end Json
end Workbench
