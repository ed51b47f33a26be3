import Workbench.Glob.Pattern

/-!
# Matching globs

A pattern matches whole texts. An attempt that runs out of text is hopeless: with fewer characters
it fails again, so that a wildcard in front of it has no other place to try.
-/

namespace Workbench
namespace Glob

/-- What became of an attempt to match. -/
inductive Verdict where
  /-- The pattern matches. -/
  | matched
  /-- The pattern does not match here. -/
  | mismatch
  /-- The text is too short. -/
  | tooShort
deriving DecidableEq, Repr

/-- A wildcard within a segment before `rest`, which is tried at every place up to a slash. -/
def matchSequence (rest : List Char → Verdict) : List Char → Verdict
  | [] => rest []
  | c :: text =>
    match rest (c :: text) with
    | .mismatch => if c = '/' then .mismatch else matchSequence rest text
    | verdict => verdict

/-- A wildcard for segments before `rest`, which is tried wherever a segment starts and at the end.
`fresh` tells whether a segment starts here. -/
def matchSegments (rest : List Char → Verdict) : Bool → List Char → Verdict
  | _, [] => rest []
  | fresh, c :: text =>
    match if fresh then rest (c :: text) else .mismatch with
    | .mismatch => matchSegments rest (c = '/') text
    | verdict => verdict

namespace Token

/-- The token stands for the character. -/
def accepts (c : Char) : Token → Bool
  | char d => c = d
  | anyChar => c ≠ '/'
  | within items => c ≠ '/' && items.any (·.holds c)
  | except items => c ≠ '/' && !items.any (·.holds c)
  | anySequence => false
  | anySegments => false

end Token

namespace Pattern

/-- Tries the pattern on the whole text. -/
def attempt : Pattern → List Char → Verdict
  | [], [] => .matched
  | [], _ :: _ => .mismatch
  | .anySequence :: more, text => matchSequence (attempt more) text
  | .anySegments :: more, text => matchSegments (attempt more) true text
  | _ :: _, [] => .tooShort
  | token :: more, c :: text => if token.accepts c then attempt more text else .mismatch

/-- The pattern matches the text. -/
def covers (pattern : Pattern) (text : String) : Bool := attempt pattern text.toList = .matched

end Pattern
end Glob
end Workbench
