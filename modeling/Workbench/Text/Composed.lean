import Workbench.Text.Composite

/-!
# Composed text

A letter with marks can be written in several ways. Composed text is one form for all of them:
composite characters are taken apart, the marks of each letter are put in the order of their
combining classes, and letters and marks are put together again wherever a character for them
exists.
-/

namespace Workbench
namespace Text

/-- Takes a character apart, at most `steps` times. Three times are enough: no letter with a
character of its own has more than three marks. -/
def decompose : Nat → Char → List Char
  | 0, c => [c]
  | steps + 1, c =>
    match parts? c with
    | some (first, second) => decompose steps first ++ [second]
    | none => [c]

/-- Puts a character in front of ordered text. A mark moves behind the marks of lower classes that
follow it, but never past a letter. -/
def insertOrdered (c : Char) : List Char → List Char
  | [] => [c]
  | next :: rest =>
    if combiningClass next ≠ 0 && combiningClass next < combiningClass c then
      next :: insertOrdered c rest
    else c :: next :: rest

/-- The text taken apart, with ordered marks. -/
def decomposed (text : List Char) : List Char :=
  (text.flatMap (decompose 3)).foldr insertOrdered []

/-- Puts the characters after the letter `base` together with it. A character joins the letter
unless a mark between them, one of those kept so far, has the same class or a higher one. -/
def joinTo (base : Char) (kept : List Char) : List Char → List Char
  | [] => base :: kept
  | c :: rest =>
    let isFree := kept.getLast?.all (combiningClass · < combiningClass c)
    match if isFree then composite? base c else none with
    | some joined => joinTo joined kept rest
    | none =>
      if combiningClass c = 0 then base :: kept ++ joinTo c [] rest
      else joinTo base (kept ++ [c]) rest

/-- The text in composed form. -/
def composed (text : List Char) : List Char :=
  let ordered := decomposed text
  let isMarking (c : Char) : Bool := combiningClass c ≠ 0
  match ordered.dropWhile isMarking with
  | [] => ordered
  | base :: rest => ordered.takeWhile isMarking ++ joinTo base [] rest

end Text
end Workbench
