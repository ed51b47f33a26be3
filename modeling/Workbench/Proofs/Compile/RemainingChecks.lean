import Workbench.Proofs.Compile.Checks

/-!
# Checks that remain

A check that is replaced is gone, but what stands between checks and in their arguments is copied
without being read again. So checks are left where one begins in an argument, or where plain text
ends in the start of a check right before a replacement, whose parentheses then complete it. Nowhere
else is a check left, and expanding the result again changes nothing exactly if none is.
-/

namespace Workbench

namespace Text

theorem append_cons_inj_of_first {c : Char} {before after before' after' : List Char}
    (first : c ∉ before) (first' : c ∉ before')
    (same : before ++ c :: after = before' ++ c :: after') : before = before' ∧ after = after' := by
  have cut := cut?_singleton_eq_some_iff.mpr ⟨same, first'⟩
  rw [cut?_singleton_eq_some_iff.mpr ⟨rfl, first⟩] at cut
  exact Prod.mk.inj (Option.some.inj cut)

theorem filter_dropWhile {keep drops : Char → Bool} (apart : ∀ c, drops c = true → keep c = false)
    (text : List Char) : (text.dropWhile drops).filter keep = text.filter keep := by
  induction text with
  | nil => rfl
  | cons c text induction =>
      rw [List.dropWhile_cons]
      split
      next dropped => rw [induction, List.filter_cons_of_neg (by simp [apart c dropped])]
      next => rfl

theorem filter_trim {keep : Char → Bool} (visible : ∀ c, isBlank c = true → keep c = false)
    (text : List Char) : (trim text).filter keep = text.filter keep := by
  rw [trim, trimEnd, List.filter_reverse, filter_dropWhile visible, List.filter_reverse,
    List.reverse_reverse, trimStart, filter_dropWhile visible]

end Text

namespace RuntimeCheck

/-! ## Parentheses -/

/-- The parentheses in a text. -/
def parentheses (text : List Char) : List Char := text.filter fun c => c = '(' || c = ')'

@[simp] theorem parentheses_append (front back : List Char) :
    parentheses (front ++ back) = parentheses front ++ parentheses back :=
  List.filter_append front back

@[simp] theorem parentheses_trim (text : List Char) :
    parentheses (Text.trim text) = parentheses text := by
  refine Text.filter_trim (fun c blank => ?_) text
  by_contra kept
  have paren : c = '(' ∨ c = ')' := by
    rw [Bool.not_eq_false, Bool.or_eq_true, decide_eq_true_eq, decide_eq_true_eq] at kept
    exact kept
  rcases paren with rfl | rfl <;> exact absurd blank (by decide)

theorem depthBehind_of_other {c : Char} (other : ¬(c = '(' ∨ c = ')')) (depth : Nat) :
    depthBehind depth c = depth := by
  rw [not_or] at other
  rw [depthBehind, if_neg other.2, if_neg other.1]

theorem closes_parentheses_iff {pending : Nat} {text : List Char} :
    Closes pending (parentheses text) ↔ Closes pending text := by
  induction text generalizing pending with
  | nil => rfl
  | cons c text induction =>
      rw [parentheses, List.filter_cons, closes_cons_iff]
      split
      next paren => rw [closes_cons_iff, ← parentheses, induction]
      next plain =>
        have other : ¬(c = '(' ∨ c = ')') := by simpa using plain
        rw [← parentheses, induction, depthBehind_of_other other]
        simp [mt Or.inr other]

/-- Whether a parenthesis is closed depends on the parentheses only. -/
theorem isSome_closing?_parentheses (depth : Nat) (text : List Char) :
    (closing? depth (parentheses text)).isSome = (closing? depth text).isSome := by
  induction text generalizing depth with
  | nil => rfl
  | cons c text induction =>
      rw [parentheses, List.filter_cons, closing?_cons]
      split
      next paren =>
        rw [closing?_cons]
        split
        · rfl
        · rw [Option.isSome_map, Option.isSome_map, ← parentheses, induction]
      next plain =>
        have other : ¬(c = '(' ∨ c = ')') := by simpa using plain
        rw [if_neg fun closed => other (.inr closed.1), Option.isSome_map, ← parentheses, induction,
          depthBehind_of_other other]

/-- A check is met behind a mark if its type is closed and is followed by a parenthesis that is
closed. -/
theorem exists_meets_iff {before text : List Char} :
    (∃ check after, Meets before text check after) ↔ Joins before = false ∧
      ∃ type rest, text = mark ++ (type ++ '>' :: '(' :: rest) ∧ '>' ∉ type ∧
        (closing? 0 rest).isSome := by
  constructor
  · rintro ⟨check, after, alone, complete, rfl⟩
    refine ⟨alone, check.type, _, check.text_append after, complete.type, ?_⟩
    rw [closing?_eq_some_iff.mpr ⟨rfl, complete.argument⟩]
    rfl
  · rintro ⟨alone, type, rest, rfl, type_open, closed⟩
    obtain ⟨⟨argument, after⟩, found⟩ := Option.isSome_iff_exists.mp closed
    obtain ⟨rfl, balanced⟩ := closing?_eq_some_iff.mp found
    exact ⟨⟨type, argument⟩, after, alone, ⟨type_open, balanced⟩,
      (Check.text_append ⟨type, argument⟩ after).symm⟩

/-! ## Replacements -/

namespace Check

variable {check : Check}

/-- What a replacement asks, between its parentheses. -/
def condition (check : Check) : List Char :=
  "typeof ".toList ++ Text.trim check.argument ++ " === \"".toList ++ Text.trim check.type ++ ['"']

/-- What follows the argument in a replacement. -/
def ending (check : Check) : List Char :=
  " === \"".toList ++ Text.trim check.type ++ "\")".toList

theorem replacement_eq_condition (check : Check) :
    check.replacement = '(' :: (check.condition ++ [')']) := by
  have opening : "(typeof ".toList = '(' :: "typeof ".toList := by decide
  have closing : "\")".toList = ['"'] ++ [')'] := by decide
  unfold replacement condition
  rw [opening, closing]
  simp only [List.append_assoc, List.cons_append]

theorem replacement_eq_ending (check : Check) :
    check.replacement = "(typeof ".toList ++ (Text.trim check.argument ++ check.ending) := by
  unfold replacement ending
  simp only [List.append_assoc]

theorem trim_type (check : Check) : Text.trim check.type = check.typeName.toList :=
  String.toList_ofList.symm

theorem parentheses_type (primitive : check.typeName ∈ primitives) :
    parentheses check.type = [] := by
  have named : ∀ name ∈ primitives, parentheses name.toList = [] := by decide
  rw [← parentheses_trim, trim_type]
  exact named check.typeName primitive

theorem parentheses_condition (primitive : check.typeName ∈ primitives) :
    parentheses check.condition = parentheses check.argument := by
  have plain : parentheses "typeof ".toList = [] ∧ parentheses " === \"".toList = [] ∧
      parentheses ['"'] = [] := by decide
  unfold condition
  simp only [parentheses_append, parentheses_trim, parentheses_type primitive, plain,
    List.nil_append, List.append_nil]

theorem parentheses_replacement (primitive : check.typeName ∈ primitives) :
    parentheses check.replacement = parentheses check.text := by
  have opening (rest : List Char) : parentheses ('(' :: rest) = '(' :: parentheses rest := rfl
  have plain : parentheses mark = [] := by decide
  have bracket (rest : List Char) : parentheses ('>' :: rest) = parentheses rest := rfl
  rw [replacement_eq_condition, text]
  simp only [parentheses_append, opening, bracket, plain, parentheses_type primitive,
    parentheses_condition primitive, List.nil_append, List.cons_append]

end Check

theorem Reading.parentheses_expanded {reading : Reading}
    (primitive : ∀ check ∈ reading.checks, check.typeName ∈ primitives) :
    parentheses reading.expanded = parentheses reading.text := by
  induction reading with
  | last plain => rfl
  | next plain check after induction =>
      rw [checks, List.forall_mem_cons] at primitive
      simp [expanded, text, Check.parentheses_replacement primitive.1, induction primitive.2]

/-! ## Where checks begin in a replaced text -/

theorem joins_append_congr {before other : List Char} (same : Joins before = Joins other)
    (front : List Char) : Joins (before ++ front) = Joins (other ++ front) := by
  rcases List.eq_nil_or_concat front with rfl | ⟨shorter, last, rfl⟩
  · rw [List.append_nil, List.append_nil, same]
  · rw [List.concat_eq_append, joins_append_concat, joins_append_concat]

theorem mark_prefix_of_solid {back rest : List Char} {c : Char} (solid : c ∉ mark)
    (leads : mark <+: back ++ c :: rest) : mark <+: back := by
  have joined : back ++ c :: rest = back ++ [c] ++ rest := by simp
  rw [joined] at leads
  rcases List.prefix_or_prefix_of_prefix leads (List.prefix_append _ rest) with whole | part
  · rcases List.prefix_concat_iff.mp whole with ends | whole
    · exact absurd (by simp [ends]) solid
    · exact whole
  · exact absurd (part.subset (by simp)) solid

/-- No check begins in text without marks that ends in a character of no mark. -/
theorem quiet_concat {before plain after : List Char} {c : Char} (unmarked : '<' ∉ plain)
    (solid : c ∉ mark) : Quiet before (plain ++ [c]) after := by
  intro front back split nonempty check rest meets
  obtain ⟨shorter, last, rfl⟩ := (List.eq_nil_or_concat back).resolve_left nonempty
  rw [List.concat_eq_append, ← List.append_assoc] at split
  obtain ⟨rfl, same⟩ := List.append_inj' split rfl
  obtain rfl := List.singleton_inj.mp same
  have leads : mark <+: shorter := mark_prefix_of_solid solid (by simpa using meets.mark_prefix)
  exact unmarked (List.mem_append_right front (leads.subset (by decide)))

/-- The text ends in the start of a check whose type has just been closed. -/
def EndsInType (before plain : List Char) : Prop :=
  ∃ front type, plain = front ++ (mark ++ type ++ ['>']) ∧ '>' ∉ type ∧
    Joins (before ++ front) = false

/-- A check begins in the plain text before a replacement only if the plain text ends in the start
of one: the parentheses of the replacement then serve as the parentheses of its argument. -/
theorem quiet_replacement_iff {before other plain more out : List Char} {check : Check}
    (same : Joins before = Joins other) (complete : check.IsComplete)
    (primitive : check.typeName ∈ primitives) (parens : parentheses out = parentheses more)
    (quiet : Quiet before plain (check.text ++ more)) :
    Quiet other plain (check.replacement ++ out) ↔ ¬EndsInType before plain := by
  constructor
  · rintro unmet ⟨front, type, rfl, type_open, alone⟩
    have balanced : Balanced check.condition := by
      refine closes_parentheses_iff.mp ?_
      rw [check.parentheses_condition primitive]
      exact closes_parentheses_iff.mpr complete.argument
    have met : ∃ found rest, Meets (other ++ front)
        (mark ++ type ++ ['>'] ++ (check.replacement ++ out)) found rest := by
      refine exists_meets_iff.mpr ⟨?_, type, check.condition ++ ')' :: out, ?_, type_open, ?_⟩
      · rw [← joins_append_congr same, alone]
      · simp [check.replacement_eq_condition]
      · rw [closing?_eq_some_iff.mpr ⟨rfl, balanced⟩]
        rfl
    obtain ⟨found, rest, meets⟩ := met
    exact unmet front _ rfl (by simp) found rest meets
  · rintro settled front back rfl nonempty found rest meets
    obtain ⟨alone, type, tail, text_eq, type_open, closed⟩ :=
      exists_meets_iff.mp ⟨found, rest, meets⟩
    rw [← joins_append_congr same] at alone
    have leads : mark <+: back ++ '(' :: (check.condition ++ ')' :: out) := by
      simpa [check.replacement_eq_condition] using meets.mark_prefix
    obtain ⟨inner, rfl⟩ := mark_prefix_of_solid (by decide) leads
    have inner_eq : inner ++ (check.replacement ++ out) = type ++ '>' :: '(' :: tail := by
      simpa using text_eq
    -- In the text before the replacement a check would be met at the same place.
    have met : ∃ found rest, Meets (before ++ front) (mark ++ inner ++ (check.text ++ more))
        found rest := by
      refine exists_meets_iff.mpr ⟨alone, ?_⟩
      by_cases inside : '>' ∈ inner
      · obtain ⟨start, behind, rfl, start_open⟩ := List.eq_append_cons_of_mem inside
        rw [List.append_assoc, List.cons_append] at inner_eq
        obtain ⟨rfl, behind_eq⟩ := Text.append_cons_inj_of_first start_open type_open inner_eq
        cases behind with
        | nil => exact absurd ⟨front, start, by simp, start_open, alone⟩ settled
        | cons c argument =>
            obtain ⟨rfl, rfl⟩ := List.cons.inj behind_eq
            refine ⟨start, argument ++ (check.text ++ more), by simp, start_open, ?_⟩
            rw [← isSome_closing?_parentheses] at closed ⊢
            simpa [check.parentheses_replacement primitive, parens] using closed
      · refine ⟨inner ++ (mark ++ check.type), check.argument ++ ')' :: more, ?_, ?_, ?_⟩
        · simp [check.text_append]
        · simp only [List.mem_append, not_or]
          exact ⟨inside, by decide, complete.type⟩
        · rw [closing?_eq_some_iff.mpr ⟨rfl, complete.argument⟩]
          rfl
    obtain ⟨found, rest, meets⟩ := met
    exact quiet front _ rfl nonempty found rest meets

/-! ## Expanding again -/

theorem quiet_congr {before other plain after : List Char} (same : Joins before = Joins other) :
    Quiet before plain after ↔ Quiet other plain after := by
  have meets_congr {text rest : List Char} {check : Check} (front : List Char) :
      Meets (before ++ front) text check rest ↔ Meets (other ++ front) text check rest :=
    ⟨fun meets => ⟨joins_append_congr same front ▸ meets.alone, meets.complete, meets.text_eq⟩,
      fun meets => ⟨joins_append_congr same front ▸ meets.alone, meets.complete, meets.text_eq⟩⟩
  simp only [Quiet, meets_congr]

/-- Nothing that is copied reads as a check in the replaced text: no plain text ends in the start of
a check in front of a replacement, and no check begins in the argument of a replacement, whether it
ends there or behind. -/
def Reading.IsSettled (before : List Char) : Reading → Prop
  | last _ => True
  | next plain check after => ¬EndsInType before plain ∧
      Quiet [] (Text.trim check.argument) (check.ending ++ after.expanded) ∧
        after.IsSettled (before ++ plain ++ check.text)

theorem Check.quiet_replacement {before after : List Char} {check : Check}
    (primitive : check.typeName ∈ primitives) : Quiet before check.replacement after ↔
      Quiet [] (Text.trim check.argument) (check.ending ++ after) := by
  have opening_split : "(typeof ".toList = "(typeof".toList ++ [' '] := by decide
  have ending_split : check.ending =
      " === \"".toList ++ Text.trim check.type ++ ['"'] ++ [')'] := by
    have closing : "\")".toList = ['"'] ++ [')'] := by decide
    unfold ending
    rw [closing, List.append_assoc _ ['"']]
  have opening (after : List Char) : Quiet before "(typeof ".toList after := by
    rw [opening_split]
    exact quiet_concat (by decide) (by decide)
  have ending (before : List Char) : Quiet before check.ending after := by
    have unmarked : ∀ name ∈ primitives, '<' ∉ name.toList := by decide
    rw [ending_split]
    refine quiet_concat ?_ (by decide)
    rw [List.mem_append, List.mem_append, trim_type, not_or, not_or]
    exact ⟨⟨by decide, unmarked check.typeName primitive⟩, by decide⟩
  have behind : Joins (before ++ "(typeof ".toList) = Joins [] := by
    rw [opening_split, joins_append_concat]
    decide +kernel
  rw [replacement_eq_ending, quiet_append_iff, quiet_append_iff, quiet_congr behind]
  exact ⟨fun quiet => quiet.2.1, fun quiet => ⟨opening _, quiet, ending _⟩⟩

theorem joins_replacement (before : List Char) (check : Check) :
    Joins (before ++ check.replacement) = false := by
  rw [check.replacement_eq_condition, ← List.cons_append, joins_append_concat]
  decide +kernel

/-- No check is left in a replaced text exactly if its reading is settled. -/
theorem Reading.quiet_expanded_iff {reading : Reading} {before other : List Char}
    (leftmost : reading.IsLeftmost before)
    (primitive : ∀ check ∈ reading.checks, check.typeName ∈ primitives)
    (same : Joins before = Joins other) :
    Quiet other reading.expanded [] ↔ reading.IsSettled before := by
  induction reading generalizing before other with
  | last plain => exact iff_of_true ((quiet_congr same).mp leftmost) trivial
  | next plain check after induction =>
      obtain ⟨quiet, _, complete, leftmost⟩ := leftmost
      rw [checks, List.forall_mem_cons] at primitive
      have behind : Joins (before ++ plain ++ check.text) =
          Joins (other ++ plain ++ check.replacement) := by
        rw [joins_text, joins_replacement]
      rw [expanded, List.append_assoc, quiet_append_iff, quiet_append_iff, List.append_nil,
        List.append_nil,
        quiet_replacement_iff same complete primitive.1 (parentheses_expanded primitive.2) quiet,
        Check.quiet_replacement primitive.1, induction leftmost primitive.2 behind]
      rfl

theorem expand_eq_self_iff {before text : List Char} :
    expand (Joins before) text = .ok text ↔ Quiet before text [] := by
  obtain ⟨reading, rfl, leftmost, expand_eq⟩ := exists_reading before text
  rw [expand_eq]
  cases reading with
  | last plain => exact iff_of_true rfl leftmost
  | next plain check after =>
      obtain ⟨_, alone, complete, _⟩ := leftmost
      refine iff_of_false (fun same => ?_) (Reading.not_quiet_of_check alone complete)
      rw [Reading.outcome] at same
      split at same
      next =>
        cases after_eq : after.outcome with
        | error type =>
            rw [after_eq] at same
            cases same
        | ok out =>
            -- A replacement starts with a parenthesis, and a check with its mark.
            have replaced : plain ++ check.replacement ++ out =
                plain ++ check.text ++ after.text := Except.ok.inj (after_eq ▸ same)
            rw [List.append_assoc, List.append_assoc, List.append_right_inj,
              check.replacement_eq_condition, check.text_append] at replaced
            exact absurd (List.cons.inj replaced).1 (by decide)
      next => cases same

theorem transform_eq_self_iff {unit : SourceFile} :
    transform unit = .ok unit ↔ Quiet [] unit.text.toList [] := by
  rw [← expand_eq_self_iff, joins_nil, transform_eq_ok_iff]
  constructor
  · rintro ⟨text, same, unit_eq⟩
    have text_eq : unit.text.toList = text :=
      (congrArg (·.text.toList) unit_eq).trans String.toList_ofList
    rwa [text_eq] at same ⊢
  · intro same
    refine ⟨unit.text.toList, same, ?_⟩
    rw [String.ofList_toList]

/-- Expanding the result of an expansion changes nothing exactly if no check is left in it, and that
is so exactly if the reading of the first text is settled. -/
theorem transform_again_iff {unit result : SourceFile} (expanded : transform unit = .ok result) :
    ∃ reading : Reading, reading.text = unit.text.toList ∧ reading.IsLeftmost [] ∧
      result.text.toList = reading.expanded ∧
      (transform result = .ok result ↔ Quiet [] result.text.toList []) ∧
      (Quiet [] result.text.toList [] ↔ reading.IsSettled []) := by
  obtain ⟨reading, text_eq, leftmost, expand_eq⟩ := exists_reading [] unit.text.toList
  obtain ⟨out, done, rfl⟩ := transform_eq_ok_iff.mp expanded
  obtain ⟨primitive, rfl⟩ := Reading.outcome_eq_ok_iff.mp (expand_eq.symm.trans done)
  refine ⟨reading, text_eq, leftmost, String.toList_ofList, transform_eq_self_iff, ?_⟩
  rw [String.toList_ofList]
  exact reading.quiet_expanded_iff leftmost primitive rfl

end RuntimeCheck

namespace Sample

/-- A unit with the given text. -/
def scriptUnit (text : String) : SourceFile := ⟨"/index.ts", text, .es5⟩

/-- A check behind text that looks like the start of one, with an argument that looks like one. -/
def lookalike : SourceFile := scriptUnit "f(this<a>is<boolean>( this<b>(c) ))"

/-- What the lookalike is expanded to. -/
def plainLookalike : SourceFile := scriptUnit "f(this<a>(typeof this<b>(c) === \"boolean\"))"

/-- Nothing is left in the lookalike, since its words do not stand alone. -/
theorem transform_again_iff_lookalike :
    RuntimeCheck.transform lookalike = .ok plainLookalike ∧
      RuntimeCheck.transform plainLookalike = .ok plainLookalike ∧
      ∃ reading : RuntimeCheck.Reading, reading.text = lookalike.text.toList ∧
        reading.IsLeftmost [] ∧ reading.IsSettled [] := by
  have expanded : RuntimeCheck.transform lookalike = .ok plainLookalike := by
    decide +kernel
  have again : RuntimeCheck.transform plainLookalike = .ok plainLookalike := by
    decide +kernel
  obtain ⟨reading, text_eq, leftmost, _, again_iff, settled_iff⟩ :=
    RuntimeCheck.transform_again_iff expanded
  exact ⟨expanded, again, reading, text_eq, leftmost, settled_iff.mp (again_iff.mp again)⟩

/-- A check in the argument of another. -/
def nestedCheck : SourceFile := scriptUnit "is<number>(is<string>(x))"

/-- The outer check is replaced. -/
def nestedCheckOnce : SourceFile := scriptUnit "(typeof is<string>(x) === \"number\")"

/-- Both checks are replaced. -/
def nestedCheckTwice : SourceFile :=
  scriptUnit "(typeof (typeof x === \"string\") === \"number\")"

/-- The inner check is copied with the argument that it is in, and replaced only when the result is
expanded again. -/
theorem nested_check_remains :
    RuntimeCheck.transform nestedCheck = .ok nestedCheckOnce ∧
      RuntimeCheck.transform nestedCheckOnce = .ok nestedCheckTwice ∧
      nestedCheckTwice ≠ nestedCheckOnce ∧
      ¬RuntimeCheck.Quiet [] nestedCheckOnce.text.toList [] := by
  have again : RuntimeCheck.transform nestedCheckOnce = .ok nestedCheckTwice := by
    decide +kernel
  have changed : nestedCheckTwice ≠ nestedCheckOnce := by
    decide
  refine ⟨by decide +kernel, again, changed, fun quiet => changed ?_⟩
  exact Except.ok.inj (again.symm.trans (RuntimeCheck.transform_eq_self_iff.mpr quiet))

end Sample
end Workbench
