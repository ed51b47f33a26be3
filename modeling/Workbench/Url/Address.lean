/-!
# Numeric hosts

IPv4 addresses are written with one to four numbers, decimal, octal or hexadecimal, of which the
last fills the bytes that are left. IPv6 addresses have eight pieces, a run of zeros can be left
out, and the last two pieces can be an IPv4 address.
-/

namespace Workbench
namespace Url

/-- A part of an IPv4 address: no number at all, or one that may be too great. -/
inductive Ipv4Part where
  /-- Not a number. -/
  | other
  /-- A number. -/
  | number (value : Nat)
deriving DecidableEq, Repr

namespace Ipv4Part

/-- The number of digits in a base from most significant to least. -/
def value (base : Nat) (digits : List Char) (digit? : Char → Option Nat) : Option Nat :=
  digits.foldl (fun sum c => do return (← sum) * base + (← digit? c)) (some 0)

/-- A digit below `bound`, by its ASCII code. -/
def digit? (bound : Nat) (c : Char) : Option Nat :=
  let value :=
    if '0' ≤ c && c ≤ '9' then c.toNat - 48
    else if 'a' ≤ c && c ≤ 'f' then c.toNat - 87
    else if 'A' ≤ c && c ≤ 'F' then c.toNat - 55
    else bound
  if value < bound then some value else none

/-- Reads a part: `0x` starts a hexadecimal number and `0` an octal one. -/
def read (text : List Char) : Ipv4Part :=
  let (base, digits) : Nat × List Char := match text with
    | '0' :: 'x' :: rest => (16, rest)
    | '0' :: 'X' :: rest => (16, rest)
    | '0' :: c :: rest => (8, c :: rest)
    | _ => (10, text)
  if text.isEmpty then other
  else match value base digits (digit? base) with
    | some sum => number sum
    | none => other

end Ipv4Part

/-- The host is meant as an IPv4 address: its last part, a final empty one aside, is a number. -/
def endsInNumber (parts : List (List Char)) : Bool :=
  match parts.reverse with
  | [] => false
  | [] :: [] => false
  | [] :: last :: _ => isNumber last
  | last :: _ => isNumber last
where
  /-- Digits only, or a number in another base. -/
  isNumber (part : List Char) : Bool :=
    (!part.isEmpty && part.all Char.isDigit) || Ipv4Part.read part ≠ .other

/-- The address that the parts make up. -/
def ipv4? (parts : List (List Char)) : Option Nat :=
  let parts := match parts.reverse with
    | [] :: before => before.reverse
    | _ => parts
  let numbers := parts.mapM fun part =>
    match Ipv4Part.read part with
    | .number value => some value
    | .other => none
  match numbers with
  | none => none
  | some numbers =>
    match numbers.reverse with
    | [] => none
    | last :: before =>
      let leading := before.reverse
      if 4 < numbers.length || leading.any (255 < ·) ||
          Nat.pow 256 (4 - leading.length) ≤ last then none
      else
        some <| leading.zipIdx.foldl
          (fun sum (part, place) => sum + part * Nat.pow 256 (3 - place)) last

/-- The address in four decimal numbers. -/
def ipv4Text (address : Nat) : String :=
  String.intercalate "."
    ([3, 2, 1, 0].map fun place => toString (address / Nat.pow 256 place % 256))

namespace Ipv6

/-- Up to four hexadecimal digits, their number, and the rest. -/
def hexPiece : Nat → Nat → List Char → Nat × List Char
  | 0, value, rest => (value, rest)
  | _ + 1, value, [] => (value, [])
  | left + 1, value, c :: rest =>
    match Ipv4Part.digit? 16 c with
    | some digit => hexPiece left (value * 16 + digit) rest
    | none => (value, c :: rest)

/-- A decimal number below 256 without leading zeros. -/
def decimalByte? (digits : List Char) : Option Nat :=
  match digits with
  | [] => none
  | '0' :: _ :: _ => none
  | _ =>
    match Ipv4Part.value 10 digits (Ipv4Part.digit? 10) with
    | some value => if value < 256 then some value else none
    | none => none

/-- The two pieces of an embedded IPv4 address. -/
def embedded? (text : List Char) : Option (List Nat) :=
  let rec split : List Char → List Char → List (List Char)
    | current, [] => [current]
    | current, c :: rest =>
      if c = '.' then current :: split [] rest else split (current ++ [c]) rest
  match (split [] text).mapM decimalByte? with
  | some [a, b, c, d] => some [a * 256 + b, c * 256 + d]
  | _ => none

/-- How many of the eight pieces are accounted for. -/
def taken (found : List Nat) (gap : Option Nat) : Nat :=
  found.length + if gap.isSome then 1 else 0

/-- Reads pieces up to the end. `found` holds the pieces read so far and `gap` the place of the run
of zeros that was left out, which takes the room of at least one piece. -/
def pieces? : Nat → List Nat → Option Nat → List Char → Option (List Nat × Option Nat)
  | 0, _, _, _ => none
  | _ + 1, found, gap, [] => some (found, gap)
  | rounds + 1, found, gap, ':' :: rest =>
    if taken found gap = 8 || gap.isSome then none
    else pieces? rounds found (some found.length) rest
  | rounds + 1, found, gap, text =>
    if taken found gap = 8 then none
    else
      let (value, rest) := hexPiece 4 0 text
      match rest with
      | [] => if rest.length < text.length then some (found ++ [value], gap) else none
      | '.' :: _ =>
        if rest.length < text.length && taken found gap ≤ 6 then
          (embedded? text).map fun pair => (found ++ pair, gap)
        else none
      | ':' :: after => if after.isEmpty then none else pieces? rounds (found ++ [value]) gap after
      | _ => none

/-- The eight pieces of the address. -/
def read? (text : List Char) : Option (List Nat) :=
  let start := match text with
    | ':' :: ':' :: rest => pieces? (text.length + 1) [] (some 0) rest
    | ':' :: _ => none
    | _ => if text.length < 2 then none else pieces? (text.length + 1) [] none text
  match start with
  | some (found, some gap) =>
    some (found.take gap ++ List.replicate (8 - found.length) 0 ++ found.drop gap)
  | some (found, none) => if found.length = 8 then some found else none
  | none => none

/-- The length of the run of zeros at the start. -/
def zeros (pieces : List Nat) : Nat := (pieces.takeWhile (· = 0)).length

/-- Start and length of the longest run of at least two zeros, the first of several. -/
def longestRun (pieces : List Nat) : Option (Nat × Nat) :=
  (List.range pieces.length).foldl (fun best start =>
    let length := zeros (pieces.drop start)
    let least := match best with
      | some (_, found) => found
      | none => 1
    if least < length then some (start, length) else best) none

/-- A piece in hexadecimal without leading zeros. -/
def pieceText (piece : Nat) : String := String.ofList (Nat.toDigits 16 piece)

/-- The address with its longest run of zeros left out. -/
def text (pieces : List Nat) : String :=
  let join (part : List Nat) := String.intercalate ":" (part.map pieceText)
  match longestRun pieces with
  | some (start, length) => join (pieces.take start) ++ "::" ++ join (pieces.drop (start + length))
  | none => join pieces

end Ipv6
end Url
end Workbench
