import Workbench.Decimal.Notation
import Workbench.Json.Cursor

/-!
# JSON numbers

A number is an integer when it has neither fraction nor exponent and fits into 64 bits; otherwise it
is a double precision number, computed as an integer of at most 64 bits that is multiplied or
divided by powers of ten. Digits that no longer fit into the integer are dropped.
-/

namespace Workbench
namespace Json

/-- A number as read. -/
inductive Number where
  /-- Zero or a positive integer. -/
  | natural (value : Nat)
  /-- An integer below zero. -/
  | negative (magnitude : Nat)
  /-- A double precision number. -/
  | float (value : Float)

namespace Number

/-- How a message names the number. -/
def describe : Number → String
  | natural value => "integer `" ++ toString value ++ "`"
  | negative magnitude => "integer `-" ++ toString magnitude ++ "`"
  | float value => "floating point `" ++ Decimal.ofFloat value ++ "`"

/-- The greatest integer that a significand can be. -/
def greatest : Nat := 0xFFFFFFFFFFFFFFFF

/-- Appends digits to the significand while it fits; gives the digits that were left over. -/
def accumulate (significand : Nat) : List Nat → Nat × List Nat
  | [] => (significand, [])
  | digit :: rest =>
    if greatest < significand * 10 + digit then (significand, digit :: rest)
    else accumulate (significand * 10 + digit) rest

/-- A power of ten up to the greatest that is a double precision number. -/
def powerOfTen (exponent : Nat) : Float := Float.ofScientific 1 false exponent

/-- The value times a power of ten. Beyond the range of double precision there is none, except for
zero. -/
def scale? (value : Float) (exponent : Int) : Option Float :=
  if exponent.natAbs ≤ 308 then
    if 0 ≤ exponent then
      let scaled := value * powerOfTen exponent.natAbs
      if scaled.isInf then none else some scaled
    else some (value / powerOfTen exponent.natAbs)
  else if value == 0.0 then some value
  else if 0 ≤ exponent then none
  else scale? (value / powerOfTen 308) (exponent + 308)
termination_by exponent.natAbs

/-- The double precision number of significand and exponent. -/
def finish (positive : Bool) (significand : Nat) (exponent : Int) : Reader Number := do
  match scale? significand.toUInt64.toFloat exponent with
  | some value => return float (if positive then value else -value)
  | none => Reader.fail .numberOutOfRange

/-- Greatest exponent that is still read digit by digit. -/
def greatestExponent : Nat := 0x7FFFFFFF

/-- The digits of an exponent up to the first that exceeds the greatest one. -/
def exponentDigits (read : Nat) : List Nat → Nat × List Nat
  | [] => (read, [])
  | digit :: rest =>
    if greatestExponent < read * 10 + digit then (read, digit :: rest)
    else exponentDigits (read * 10 + digit) rest

/-- Reads an exponent after its letter. -/
def readExponent (positive : Bool) (significand : Nat) (exponent : Int) : Reader Number := do
  Reader.advance
  let sign ← Reader.peek
  if sign = some 0x2B || sign = some 0x2D then Reader.advance
  match ← Reader.take with
  | none => Reader.fail .endOfValue
  | some byte =>
    if byte < 0x30 || 0x39 < byte then Reader.fail .invalidNumber
    else
      let place ← get
      let (value, excess) := exponentDigits (byte.toNat - 0x30) (← Reader.digits)
      if excess.isEmpty then
        let shift : Int := if sign = some 0x2D then -value else value
        let least : Int := -0x80000000
        finish positive significand (max least (min greatestExponent (exponent + shift)))
      else if significand ≠ 0 && sign ≠ some 0x2D then
        -- The flaw is noticed at the first digit too many.
        let kept := (place.rest.takeWhile fun digit => 0x30 ≤ digit && digit ≤ 0x39).length
        throw ⟨.numberOutOfRange, place.line, place.column + (kept - excess.length) + 1⟩
      else return float (if positive then 0.0 else -0.0)

/-- Reads what may follow the digits of a number whose value so far is given. -/
def readTail (positive : Bool) (significand : Nat) (exponent : Int) : Reader Number := do
  match ← Reader.peek with
  | some 0x65 | some 0x45 => readExponent positive significand exponent
  | _ => finish positive significand exponent

/-- Reads a fraction from its point on. -/
def readFraction (positive : Bool) (significand : Nat) (exponent : Int) : Reader Number := do
  Reader.advance
  let digits ← Reader.digits
  if digits.isEmpty then
    match ← Reader.peek with
    | some _ => Reader.failAhead .invalidNumber
    | none => Reader.failAhead .endOfValue
  else
    let (value, excess) := accumulate significand digits
    readTail positive value (exponent - (digits.length - excess.length : Nat))

/-- Reads the rest of a number after its integer digits. -/
def readRest (positive : Bool) (significand : Nat) : Reader Number := do
  match ← Reader.peek with
  | some 0x2E => readFraction positive significand 0
  | some 0x65 | some 0x45 => readExponent positive significand 0
  | _ =>
    if positive then return natural significand
    else if significand = 0 || 0x8000000000000000 < significand then
      return float (-significand.toUInt64.toFloat)
    else return negative significand

/-- Reads a number after its sign. -/
def read (positive : Bool) : Reader Number := do
  match ← Reader.take with
  | none => Reader.fail .endOfValue
  | some 0x30 =>
    match ← Reader.peek with
    | some byte =>
      if 0x30 ≤ byte && byte ≤ 0x39 then Reader.failAhead .invalidNumber
      else readRest positive 0
    | none => readRest positive 0
  | some byte =>
    if byte < 0x31 || 0x39 < byte then Reader.fail .invalidNumber
    else
      let (value, excess) := accumulate (byte.toNat - 0x30) (← Reader.digits)
      if excess.isEmpty then readRest positive value
      else
        match ← Reader.peek with
        | some 0x2E => readFraction positive value excess.length
        | _ => readTail positive value excess.length

/-- Consumes a number after its sign without computing its value. -/
def skip : Reader Unit := do
  match (← get).rest with
  | [] => Reader.fail .invalidNumber
  | 0x30 :: next :: _ =>
    Reader.advance
    if 0x30 ≤ next && next ≤ 0x39 then Reader.failAhead .invalidNumber
  | byte :: _ =>
    Reader.advance
    if byte < 0x30 || 0x39 < byte then Reader.fail .invalidNumber
    discard Reader.digits
  if (← Reader.peek) = some 0x2E then
    Reader.advance
    if (← Reader.digits).isEmpty then Reader.failAhead .invalidNumber
  let letter ← Reader.peek
  if letter = some 0x65 || letter = some 0x45 then
    Reader.advance
    let sign ← Reader.peek
    if sign = some 0x2B || sign = some 0x2D then Reader.advance
    match (← Reader.take) with
    | none => Reader.fail .invalidNumber
    | some byte =>
      if byte < 0x30 || 0x39 < byte then Reader.fail .invalidNumber
      discard Reader.digits

end Number
end Json
end Workbench
