import Workbench.Decimal.Shortest

/-!
# Writing floating point numbers

Numbers of moderate size are written in positional notation with at least one digit on each side of
the point. Very large and very small ones have a single digit before the point, and an exponent
that always has a sign.
-/

namespace Workbench
namespace Decimal

/-- Least and greatest power of the leading digit that is written in positional notation. -/
def positional : Int × Int := (-5, 15)

/-- Positional or scientific text of the digits. -/
def write (decimal : Digits) : List Char :=
  let digits := decimal.digits
  let leading := decimal.leading
  if positional.1 ≤ leading && leading ≤ positional.2 then
    if leading < 0 then
      ['0', '.'] ++ List.replicate (-leading - 1).toNat '0' ++ digits
    else
      let whole := leading.toNat + 1
      let padded := digits ++ List.replicate (whole - digits.length) '0'
      let fraction := digits.drop whole
      padded.take whole ++ '.' :: (if fraction.isEmpty then ['0'] else fraction)
  else
    let fraction := digits.drop 1
    digits.take 1 ++ (if fraction.isEmpty then [] else '.' :: fraction) ++
      ['e', if leading < 0 then '-' else '+'] ++ Nat.toDigits 10 leading.natAbs

/-- The text of a finite double precision number. -/
def ofFloat (number : Float) : String :=
  let bits := number.toBits
  let sign := if bits.toNat < 0x8000000000000000 then [] else ['-']
  let magnitude := BinaryFraction.ofBits bits
  String.ofList <| sign ++
    if magnitude.significand = 0 then ['0', '.', '0'] else write (shortest magnitude)

end Decimal
end Workbench
