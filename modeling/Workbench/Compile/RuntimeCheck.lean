import Workbench.Compile.Transform
import Workbench.Text.CharacterClass
import Workbench.Text.Pieces

/-!
# Runtime checks

The transformer that turns type checks such as `is<string>(name)` into checks at run time. A check
is complete when its type is closed and its argument is in balanced parentheses; the word `is` must
stand alone. Only primitive types can be checked.
-/

namespace Workbench
namespace RuntimeCheck

/-- The types whose values can be told apart at run time. -/
def primitives : List String :=
  ["number", "string", "boolean", "bigint", "symbol", "undefined", "object", "function"]

/-- The character can be part of an identifier. -/
def isIdentifier (c : Char) : Bool := Text.isAlphanumeric c || c = '_' || c = '$'

/-- How a check starts. -/
def mark : List Char := ['i', 's', '<']

/-- The text up to the parenthesis that closes one before it, and the text after that; `depth`
parentheses have been opened since. -/
def closing? (depth : Nat) : List Char → Option (List Char × List Char)
  | [] => none
  | c :: rest =>
    if c = ')' && depth = 0 then some ([], rest)
    else
      let depth := if c = ')' then depth - 1 else if c = '(' then depth + 1 else depth
      (closing? depth rest).map fun found => (c :: found.1, found.2)

/-- A complete check. -/
structure Check where
  /-- The type, with blanks around it. -/
  type : List Char
  /-- The argument, with blanks around it. -/
  argument : List Char
deriving DecidableEq, Repr

namespace Check

/-- The name of the type. -/
def typeName (check : Check) : String := String.ofList (Text.trim check.type)

/-- What the check becomes. -/
def replacement (check : Check) : List Char :=
  "(typeof ".toList ++ Text.trim check.argument ++ " === \"".toList ++ Text.trim check.type ++
    "\")".toList

end Check

/-- The check whose text goes on so after its start, and the text after the check. -/
def check? (text : List Char) : Option (Check × List Char) :=
  match Text.cut? ['>'] text with
  | some (type, '(' :: rest) => (closing? 0 rest).map fun found => (⟨type, found.1⟩, found.2)
  | _ => none

theorem length_closing? {depth : Nat} {text before after : List Char}
    (found : closing? depth text = some (before, after)) : after.length < text.length := by
  induction text generalizing depth before with
  | nil => simp [closing?] at found
  | cons c rest ih =>
    rw [closing?] at found
    split at found
    · cases found
      simp
    · obtain ⟨⟨first, last⟩, tail, equal⟩ := Option.map_eq_some_iff.1 found
      cases equal
      exact Nat.lt_succ_of_lt (ih tail)

theorem length_check? {text rest : List Char} {check : Check}
    (found : check? text = some (check, rest)) : rest.length < text.length := by
  unfold check? at found
  split at found
  · rename_i type inner cut
    obtain ⟨⟨first, last⟩, closed, equal⟩ := Option.map_eq_some_iff.1 found
    cases equal
    have short := length_closing? closed
    have whole := Text.length_cut? cut
    simp only [List.length_cons] at whole
    exact Nat.lt_of_lt_of_le short (Nat.le_of_succ_le whole)
  · simp at found

/-- Expands the checks in a text, or gives the type that cannot be checked; `joined` tells whether
the character before the text belongs to an identifier. -/
def expand (joined : Bool) (text : List Char) : Except String (List Char) :=
  match text with
  | 'i' :: 's' :: '<' :: rest =>
    match found : check? rest with
    | some (check, after) =>
      have : after.length < rest.length := length_check? found
      if joined then (expand false rest).map (mark ++ ·)
      else if check.typeName ∈ primitives then
        (expand false after).map (check.replacement ++ ·)
      else .error check.typeName
    | none => (expand false rest).map (mark ++ ·)
  | c :: rest => (expand (isIdentifier c) rest).map (c :: ·)
  | [] => .ok []
termination_by text.length
decreasing_by all_goals (simp only [List.length_cons]; omega)

/-- Expands the checks in a unit. -/
def transform (unit : SourceFile) : Except TransformError SourceFile :=
  match expand false unit.text.toList with
  | .ok text => .ok { unit with text := String.ofList text }
  | .error type =>
    .error (.failed unit.name ("unsupported type `" ++ type ++ "` in runtime check"))

/-- The transformer that expands checks. -/
def transformer : Transformer := .ofUnit transform

end RuntimeCheck
end Workbench
