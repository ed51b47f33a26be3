import Workbench.Text.Composed
import Workbench.Text.Direction
import Workbench.Text.Joining
import Workbench.Text.Pieces
import Workbench.Url.DomainCharacter
import Workbench.Url.Punycode

/-!
# Domain names

A label is the text between two dots of a domain name. A label with characters outside ASCII has a
second form in ASCII: Punycode behind a mark. Both forms are read here, and a label is refused
unless its characters can stand together in one. The ASCII form of a domain name is what stands in a
URL: lowercase, without forbidden characters, and with every label in Punycode that is not ASCII.
-/

namespace Workbench
namespace Url

/-- A label of a domain name in lowercase. -/
structure Label where
  /-- The characters it is made up of. -/
  characters : List Char
  /-- The form it has in ASCII. -/
  ascii : List Char
deriving DecidableEq, Repr

namespace Label

/-- The mark in front of Punycode. -/
def mark : List Char := ['x', 'n', '-', '-']

/-- The greatest number of characters that are written as Punycode. -/
def longestWritten : Nat := 1000

/-- The greatest number of characters that are read as Punycode. -/
def longestRead : Nat := 2000

/-- All characters are ASCII. -/
def isAscii (text : List Char) : Bool := text.all (·.toNat < 0x80)

/-- Lets the characters at its sides join. -/
def joiner : Char := '\u200d'

/-- Keeps the characters at its sides from joining. -/
def nonJoiner : Char := '\u200c'

/-- Joiners have their effect: each stands after a sign that takes away a vowel, or keeps apart two
letters that would join otherwise. The first list is the text in front, last character first. -/
def joinersFit (before : List Char) : List Char → Bool
  | [] => true
  | c :: rest =>
    let afterVirama := before.head?.any (Text.combiningClass · = Text.viramaClass)
    let betweenLetters :=
      (before.find? (!Text.isTransparent ·)).any Text.joinsForward &&
        (rest.find? (!Text.isTransparent ·)).any Text.joinsBackward
    (c ≠ joiner || afterVirama) && (c ≠ nonJoiner || afterVirama || betweenLetters) &&
      joinersFit (c :: before) rest

/-- The characters can stand together: there is a letter for the first mark, and joiners have their
effect. -/
def isWellFormed (text : List Char) : Bool :=
  !text.head?.any Text.isMark && joinersFit [] text

/-- The text is what domain names hold of it: reading it changes nothing. -/
def isCanonical (text : List Char) : Bool :=
  text.all (fun c => Domain.mapped c = [c] && !Domain.isDisallowed c) && Text.composed text = text

/-- Reads the Punycode of a label. Text that needs no Punycode is refused. -/
def decode? (punycode : List Char) : Option (List Char) := do
  if longestRead < punycode.length || punycode.getLast? = some '-' then none
  let text ← Punycode.decode? punycode
  if isAscii text || !isCanonical text || !isWellFormed text then none
  return text

/-- Reads a label in either form. -/
def read? (text : List Char) : Option Label :=
  if mark.isPrefixOf text then (decode? (text.drop mark.length)).map (⟨·, text⟩)
  else if isAscii text then some ⟨text, text⟩
  else if isWellFormed text && text.length ≤ longestWritten then
    some ⟨text, mark ++ Punycode.encode text⟩
  else none

/-- Some character belongs to text from right to left. -/
def hasRightToLeft (label : Label) : Bool :=
  label.characters.any fun c =>
    [.rightToLeft, .arabicLetter, .arabicNumber].contains (Text.direction c)

/-- The directions of the characters make up one of the two orders: from left to right or from right
to left. The order is that of the first character, all others have to fit in, and a label ends with
a letter or a number, marks aside. -/
def isOrdered (label : Label) : Bool :=
  let anywhere : List Text.Direction :=
    [.europeanNumber, .europeanSeparator, .europeanTerminator, .commonSeparator, .nonspacing,
      .boundary, .neutral]
  match label.characters.map Text.direction with
  | [] => true
  | first :: rest =>
    let ends (final : List Text.Direction) : Bool :=
      (rest.reverse.find? (· ≠ .nonspacing)).all (final.contains ·)
    match first with
    | .leftToRight =>
      rest.all ((.leftToRight :: anywhere).contains ·) && ends [.leftToRight, .europeanNumber]
    | .rightToLeft | .arabicLetter =>
      rest.all ((.rightToLeft :: .arabicLetter :: .arabicNumber :: anywhere).contains ·) &&
        ends [.rightToLeft, .arabicLetter, .europeanNumber, .arabicNumber] &&
        !(rest.contains .europeanNumber && rest.contains .arabicNumber)
    | _ => false

end Label

namespace Domain

/-- The ASCII character cannot stand in a domain name. -/
def isForbidden (c : Char) : Bool :=
  c.toNat ≤ 0x20 || c.toNat = 0x7F || "%#/:<>?@[\\]^|".toList.contains c

/-- The text that a name stands for: in lowercase, composed, and free of what domain names leave
out. -/
def normalized? (name : List Char) : Option (List Char) :=
  if name.any isDisallowed then none else some (Text.composed (name.flatMap mapped))

/-- The labels of a domain name. If any of them has text from right to left, the characters of all
have to be in order. -/
def labels? (name : List Char) : Option (List Label) := do
  let text ← normalized? name
  let labels ← (Text.pieces '.' text).mapM Label.read?
  if labels.any Label.hasRightToLeft && !labels.all Label.isOrdered then none else some labels

/-- The ASCII form of a domain name. -/
def toAscii? (name : List Char) : Option (List Char) := do
  let labels ← labels? name
  let ascii := ['.'].intercalate (labels.map Label.ascii)
  if ascii.any isForbidden then none else some ascii

end Domain
end Url
end Workbench
