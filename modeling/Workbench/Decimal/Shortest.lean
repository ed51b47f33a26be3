/-!
# Shortest decimal of a binary fraction

A double precision number is one of a discrete set of rationals, and every rational near it rounds
to it. Its shortest decimal is the one with the fewest digits among those that round to it, and of
these the nearest. Candidates on the grid of `n` significant digits are the two neighbours of the
number on that grid; the grids are tried from coarse to fine.
-/

namespace Workbench
namespace Decimal

/-- A positive number `significand · 2 ^ exponent` with the spacing of its neighbours. -/
structure BinaryFraction where
  /-- The integer factor. -/
  significand : Nat
  /-- The power of two. -/
  exponent : Int
  /-- The next smaller number is only half as far as the next larger one. -/
  narrowBelow : Bool
deriving DecidableEq, Repr

namespace BinaryFraction

/-- The finite positive number with the given bits, sign aside. -/
def ofBits (bits : UInt64) : BinaryFraction :=
  let biased : Nat := bits.toNat / Nat.pow 2 52 % Nat.pow 2 11
  let fraction : Nat := bits.toNat % Nat.pow 2 52
  if biased = 0 then ⟨fraction, -1074, false⟩
  else ⟨Nat.pow 2 52 + fraction, (biased : Int) - 1075, fraction = 0 && 1 < biased⟩

/-- Numerator and denominator of `count · 2 ^ exponent`. -/
def scaled (count : Nat) (exponent : Int) : Nat × Nat :=
  if 0 ≤ exponent then (count * Nat.pow 2 exponent.toNat, 1)
  else (count, Nat.pow 2 (-exponent).toNat)

/-- Some decimal `digits · 10 ^ power` lies in the interval of rationals that round to the number.
The ends belong to it when the significand is even. -/
def roundsFrom (number : BinaryFraction) (digits : Nat) (power : Int) : Bool :=
  let quarter := number.exponent - 2
  let (lower, base) :=
    scaled (4 * number.significand - (if number.narrowBelow then 1 else 2)) quarter
  let (upper, _) := scaled (4 * number.significand + 2) quarter
  let (numerator, denominator) :=
    if 0 ≤ power then (digits * Nat.pow 10 power.toNat, 1) else (digits, Nat.pow 10 (-power).toNat)
  let middle := numerator * base
  if number.significand % 2 = 0 then
    lower * denominator ≤ middle && middle ≤ upper * denominator
  else lower * denominator < middle && middle < upper * denominator

/-- The greatest grid point `digits · 10 ^ power` that is not above the number, and whether the
number is nearer to it than to the next one. -/
def floorOn (number : BinaryFraction) (power : Int) : Nat × Bool :=
  let (numerator, base) := scaled number.significand number.exponent
  let (top, bottom) :=
    if 0 ≤ power then (numerator, base * Nat.pow 10 power.toNat)
    else (numerator * Nat.pow 10 (-power).toNat, base)
  let digits := top / bottom
  (digits, 2 * (top % bottom) < bottom || (2 * (top % bottom) = bottom && digits % 2 = 0))

/-- The power of ten of the leading digit. -/
def leadingPower (number : BinaryFraction) : Int :=
  let (numerator, base) := scaled number.significand number.exponent
  let fits (power : Int) : Bool :=
    if 0 ≤ power then base * Nat.pow 10 power.toNat ≤ numerator
    else base ≤ numerator * Nat.pow 10 (-power).toNat
  (((List.range 634).map fun (down : Nat) => 309 - (down : Int)).find? fits).getD (-325)

/-- A decimal with `count` digits that rounds to the number, the nearer of two. -/
def onGrid? (number : BinaryFraction) (leading : Int) (count : Nat) : Option (Nat × Int) :=
  let power := leading - count + 1
  let (below, belowNearer) := number.floorOn power
  match number.roundsFrom below power, number.roundsFrom (below + 1) power with
  | true, true => some (if belowNearer then below else below + 1, power)
  | true, false => some (below, power)
  | false, true => some (below + 1, power)
  | false, false => none

end BinaryFraction

/-- Digits without trailing zeros, and the power of ten of the leading digit. -/
structure Digits where
  /-- The significant digits. -/
  digits : List Char
  /-- The power of ten of the first digit. -/
  leading : Int
deriving DecidableEq, Repr

/-- The shortest decimal that rounds to the number. Seventeen digits always suffice. -/
def shortest (number : BinaryFraction) : Digits :=
  let leading := number.leadingPower
  let counts := (List.range 17).map (· + 1)
  let (value, power) := (counts.findSome? (number.onGrid? leading)).getD
    ((number.floorOn (leading - 16)).1, leading - 16)
  let shown := Nat.toDigits 10 value
  let significant := (shown.reverse.dropWhile (· = '0')).reverse
  ⟨significant, power + shown.length - 1⟩

end Decimal
end Workbench
