/-!
# Punycode

A label with characters outside ASCII is written in ASCII: its basic characters first, then for
every other character, in ascending order, how far the decoder has to count to insert it. The
counts are numbers to the base 36 whose digits end at thresholds that adapt to the counts before.
-/

namespace Workbench
namespace Url
namespace Punycode

/-- The threshold of a digit: below it, the digit is the last of its number. -/
def threshold (place bias : Nat) : Nat := max 1 (min 26 (place - bias))

/-- Divides by 35 until the count is small and gives the number of steps with it. -/
def reduce (count : Nat) : Nat × Nat :=
  if 455 < count then
    let (steps, rest) := reduce (count / 35)
    (steps + 1, rest)
  else (0, count)
termination_by count
decreasing_by omega

/-- The bias after a count, given how many characters there are now. -/
def adapt (count characters : Nat) (first : Bool) : Nat :=
  let damped := if first then count / 700 else count / 2
  let (steps, rest) := reduce (damped + damped / characters)
  36 * steps + 36 * rest / (rest + 38)

/-- The character of a digit: letters, then decimal digits. -/
def digitChar (digit : Nat) : Char :=
  if digit < 26 then Char.ofNat (97 + digit) else Char.ofNat (22 + digit)

/-- The digit of a character. -/
def digit? (c : Char) : Option Nat :=
  if 'a' ≤ c && c ≤ 'z' then some (c.toNat - 97)
  else if 'A' ≤ c && c ≤ 'Z' then some (c.toNat - 65)
  else if '0' ≤ c && c ≤ '9' then some (c.toNat - 22)
  else none

/-- The digits of a count, least significant first. -/
def countDigits (bias place count : Nat) : List Char :=
  let least := threshold place bias
  if count < least then [digitChar count]
  else digitChar (least + (count - least) % (36 - least)) ::
    countDigits bias (place + 36) ((count - least) / (36 - least))
termination_by count
decreasing_by
  have positive : 1 ≤ threshold place bias := Nat.le_max_left 1 _
  have := Nat.div_le_self (count - threshold place bias) (36 - threshold place bias)
  omega

/-- What the encoder keeps between characters. -/
structure Encoder where
  /-- Text written so far. -/
  written : List Char
  /-- The count since the last insertion. -/
  count : Nat
  /-- The current bias. -/
  bias : Nat
  /-- Characters accounted for. -/
  done : Nat

/-- Passes over one character of the label while `level` is the code point to be inserted. -/
def Encoder.pass (basic level : Nat) (encoder : Encoder) (c : Char) : Encoder :=
  if c.toNat < level then { encoder with count := encoder.count + 1 }
  else if c.toNat = level then
    ⟨encoder.written ++ countDigits encoder.bias 36 encoder.count, 0,
      adapt encoder.count (encoder.done + 1) (encoder.done = basic), encoder.done + 1⟩
  else encoder

/-- Inserts the code points in ascending order; `level` is the least that is still possible. -/
def insertAll (label : List Char) (basic : Nat) : List Nat → Nat → Encoder → Encoder
  | [], _, encoder => encoder
  | point :: more, level, encoder =>
    let counted :=
      { encoder with count := encoder.count + (point - level) * (encoder.done + 1) }
    let passed := label.foldl (Encoder.pass basic point) counted
    insertAll label basic more (point + 1) { passed with count := passed.count + 1 }

/-- The ASCII form of a label, without the mark in front. -/
def encode (label : List Char) : List Char :=
  let basic := label.filter (·.toNat < 0x80)
  let others := ((label.map Char.toNat).filter (0x80 ≤ ·)).mergeSort.eraseDups
  let start := if basic.isEmpty then [] else basic ++ ['-']
  (insertAll label basic.length others 0x80 ⟨start, 0, 72, basic.length⟩).written

/-- What the decoder keeps between digits. -/
structure Decoder where
  /-- Characters decoded so far. -/
  label : List Char
  /-- The code point inserted last. -/
  level : Nat
  /-- Place of the next insertion. -/
  index : Nat
  /-- The current bias. -/
  bias : Nat
  /-- Place where the number that is being read started to count. -/
  origin : Nat
  /-- Weight of the next digit. -/
  weight : Nat
  /-- Place value position of the next digit. -/
  place : Nat

/-- The greatest weight of a digit. -/
def greatestWeight : Nat := 0xFFFFFFFF

/-- Reads digits up to the end of the text; the text must end with a complete number. -/
def decodeDigits : List Char → Decoder → Option (List Char)
  | [], decoder => if decoder.place = 36 then some decoder.label else none
  | c :: rest, decoder => do
    let digit ← digit? c
    let index := decoder.index + digit * decoder.weight
    let least := threshold decoder.place decoder.bias
    if digit < least then
      let size := decoder.label.length + 1
      let level := decoder.level + index / size
      let place := index % size
      if 0x10FFFF < level || (0xD800 ≤ level && level ≤ 0xDFFF) then none
      else decodeDigits rest {
        label := decoder.label.take place ++ Char.ofNat level :: decoder.label.drop place
        level, index := place + 1
        bias := adapt (index - decoder.origin) size (decoder.origin = 0)
        origin := place + 1, weight := 1, place := 36 }
    else
      let weight := decoder.weight * (36 - least)
      if greatestWeight < weight then none
      else decodeDigits rest { decoder with index, weight, place := decoder.place + 36 }

/-- The label of an ASCII form without its mark. The basic characters end with the last hyphen,
which is not there when no character is basic. -/
def decode? (text : List Char) : Option (List Char) :=
  let tail := (text.reverse.takeWhile (· ≠ '-')).reverse
  let basic := text.take (text.length - tail.length - 1)
  if basic.any (0x80 ≤ ·.toNat) || (basic.isEmpty && text.contains '-') then none
  else decodeDigits tail ⟨basic, 0x80, 0, 72, 0, 1, 36⟩

end Punycode
end Url
end Workbench
