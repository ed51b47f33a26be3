import Workbench.Compile.RuntimeCheck
import Workbench.Proofs.Text.Cutting

/-!
# The checks in a text

A text is read from left to right as plain text and checks in turn. A check is taken wherever one
stands alone and complete in what has not been read, and nothing else is taken; every text has
exactly one such reading. Expanding a text replaces the checks of its reading and copies the plain
text between them, unless the type of a check is not primitive.
-/

namespace Workbench
namespace RuntimeCheck

/-! ## Complete checks -/

/-- The text closes so many parentheses more than it opens, and no part at its start closes more. -/
structure Closes (pending : Nat) (text : List Char) : Prop where
  within : ∀ front, front <+: text → front.count ')' ≤ pending + front.count '('
  even : text.count ')' = pending + text.count '('

/-- Every parenthesis in the text has its partner in it. -/
abbrev Balanced (text : List Char) : Prop := Closes 0 text

/-- How many parentheses are open behind a character. -/
def depthBehind (depth : Nat) (c : Char) : Nat :=
  if c = ')' then depth - 1 else if c = '(' then depth + 1 else depth

theorem closes_nil_iff {pending : Nat} : Closes pending [] ↔ pending = 0 := by
  constructor
  · intro closes
    simpa using closes.even.symm
  · rintro rfl
    exact ⟨fun front leads => by simp [List.prefix_nil.mp leads], rfl⟩

theorem closes_cons_iff {pending : Nat} {c : Char} {rest : List Char} :
    Closes pending (c :: rest) ↔
      ¬(c = ')' ∧ pending = 0) ∧ Closes (depthBehind pending c) rest := by
  have step (text : List Char) (some_open : ¬(c = ')' ∧ pending = 0)) :
      (c :: text).count ')' + (depthBehind pending c + text.count '(') =
        text.count ')' + (pending + (c :: text).count '(') := by
    rw [depthBehind, List.count_cons, List.count_cons]
    by_cases closing : c = ')'
    · subst closing
      simp at some_open ⊢
      omega
    · by_cases opening : c = '('
      · subst opening
        simp
        omega
      · simp [closing, opening]
  constructor
  · intro closes
    have some_open : ¬(c = ')' ∧ pending = 0) := by
      rintro ⟨rfl, rfl⟩
      have first := closes.within [')'] (by simp)
      simp at first
    refine ⟨some_open, fun front leads => ?_, ?_⟩
    · have longer := closes.within (c :: front) (List.cons_prefix_cons.mpr ⟨rfl, leads⟩)
      have := step front some_open
      omega
    · have := step rest some_open
      have := closes.even
      omega
  · rintro ⟨some_open, closes⟩
    refine ⟨fun front leads => ?_, ?_⟩
    · rcases List.prefix_cons_iff.mp leads with rfl | ⟨tail, rfl, shorter⟩
      · simp
      · have := closes.within tail shorter
        have := step tail some_open
        omega
    · have := step rest some_open
      have := closes.even
      omega

theorem closing?_cons (depth : Nat) (c : Char) (rest : List Char) :
    closing? depth (c :: rest) =
      if c = ')' ∧ depth = 0 then some ([], rest)
      else (closing? (depthBehind depth c) rest).map fun found => (c :: found.1, found.2) := by
  simp [closing?, depthBehind]

/-- A parenthesis is closed by the first one that balances it. -/
theorem closing?_eq_some_iff {depth : Nat} {text before after : List Char} :
    closing? depth text = some (before, after) ↔
      text = before ++ ')' :: after ∧ Closes depth before := by
  induction text generalizing depth before with
  | nil => simp [closing?]
  | cons c rest induction =>
      rw [closing?_cons]
      split
      next closed =>
        obtain ⟨rfl, rfl⟩ := closed
        cases before with
        | nil => simp [closes_nil_iff]
        | cons head tail =>
            constructor
            · intro equal
              cases equal
            · rintro ⟨equal, closes⟩
              obtain ⟨rfl, -⟩ := List.cons.inj equal
              exact absurd ⟨rfl, rfl⟩ (closes_cons_iff.mp closes).1
      next some_open =>
        rw [Option.map_eq_some_iff]
        constructor
        · rintro ⟨⟨_, _⟩, found, equal⟩
          cases equal
          obtain ⟨rfl, closes⟩ := induction.mp found
          exact ⟨rfl, closes_cons_iff.mpr ⟨some_open, closes⟩⟩
        · rintro ⟨equal, closes⟩
          cases before with
          | nil =>
              obtain ⟨rfl, -⟩ := List.cons.inj equal
              exact absurd ⟨rfl, closes_nil_iff.mp closes⟩ some_open
          | cons head tail =>
              obtain ⟨rfl, rfl⟩ := List.cons.inj equal
              exact ⟨(tail, after), induction.mpr ⟨rfl, (closes_cons_iff.mp closes).2⟩, rfl⟩

namespace Check

/-- The check as it is written. -/
def text (check : Check) : List Char :=
  mark ++ check.type ++ '>' :: '(' :: check.argument ++ [')']

theorem text_append (check : Check) (after : List Char) : check.text ++ after =
    mark ++ (check.type ++ '>' :: '(' :: (check.argument ++ ')' :: after)) := by
  simp [text]

/-- The type ends at the first closing bracket, and the argument at the parenthesis that balances
the one in front of it. -/
structure IsComplete (check : Check) : Prop where
  type : '>' ∉ check.type
  argument : Balanced check.argument

end Check

theorem check?_eq_some_iff {text after : List Char} {check : Check} :
    check? text = some (check, after) ↔
      mark ++ text = check.text ++ after ∧ check.IsComplete := by
  rw [check.text_append, List.append_right_inj, check?]
  constructor
  · intro found
    split at found
    next type rest cut =>
      obtain ⟨⟨argument, tail⟩, closed, equal⟩ := Option.map_eq_some_iff.mp found
      cases equal
      obtain ⟨rfl, type_closed⟩ := Text.cut?_singleton_eq_some_iff.mp cut
      obtain ⟨rfl, balanced⟩ := closing?_eq_some_iff.mp closed
      exact ⟨rfl, type_closed, balanced⟩
    next => exact nomatch found
  · rintro ⟨rfl, complete⟩
    rw [Text.cut?_singleton_eq_some_iff.mpr ⟨rfl, complete.type⟩]
    simp only
    rw [closing?_eq_some_iff.mpr ⟨rfl, complete.argument⟩]
    rfl

/-! ## Readings -/

/-- The text ends inside an identifier. -/
def Joins (before : List Char) : Bool := before.getLast?.any isIdentifier

@[simp] theorem joins_nil : Joins [] = false := rfl

@[simp] theorem joins_concat (before : List Char) (c : Char) :
    Joins (before ++ [c]) = isIdentifier c := by
  simp [Joins]

theorem joins_append_concat (before front : List Char) (c : Char) :
    Joins (before ++ (front ++ [c])) = isIdentifier c := by
  rw [← List.append_assoc, joins_concat]

theorem joins_text (before : List Char) (check : Check) :
    Joins (before ++ check.text) = false := by
  rw [Check.text, ← List.append_assoc, joins_concat]
  decide +kernel

/-- The text goes on with a complete check that stands alone behind what is before. -/
structure Meets (before text : List Char) (check : Check) (after : List Char) : Prop where
  alone : Joins before = false
  complete : check.IsComplete
  text_eq : text = check.text ++ after

/-- A check starts with its mark, so it is met where the mark is. -/
theorem Meets.check? {before text after : List Char} {check : Check}
    (meets : Meets before text check after) :
    ∃ rest, text = mark ++ rest ∧ check? rest = some (check, after) := by
  refine ⟨_, meets.text_eq.trans (check.text_append after),
    check?_eq_some_iff.mpr ⟨?_, meets.complete⟩⟩
  rw [check.text_append]

theorem Meets.unique {before text after other_after : List Char} {check other : Check}
    (meets : Meets before text check after) (other_meets : Meets before text other other_after) :
    check = other ∧ after = other_after := by
  obtain ⟨rest, text_eq, found⟩ := meets.check?
  obtain ⟨_, other_eq, other_found⟩ := other_meets.check?
  obtain rfl := List.append_cancel_left (text_eq.symm.trans other_eq)
  simpa using found.symm.trans other_found

/-- No check begins in the plain text between. -/
def Quiet (before plain after : List Char) : Prop :=
  ∀ front back, plain = front ++ back → back ≠ [] →
    ∀ check rest, ¬Meets (before ++ front) (back ++ after) check rest

@[simp] theorem quiet_nil (before after : List Char) : Quiet before [] after := by
  intro front back split nonempty
  exact absurd (List.append_eq_nil_iff.mp split.symm).2 nonempty

theorem quiet_cons_iff {before plain after : List Char} {c : Char} :
    Quiet before (c :: plain) after ↔
      (∀ check rest, ¬Meets before (c :: (plain ++ after)) check rest) ∧
        Quiet (before ++ [c]) plain after := by
  constructor
  · intro quiet
    refine ⟨fun check rest => ?_, fun front back split nonempty => ?_⟩
    · simpa using quiet [] (c :: plain) rfl (List.cons_ne_nil c plain) check rest
    · simpa using quiet (c :: front) back (by rw [split, List.cons_append]) nonempty
  · rintro ⟨first, quiet⟩ front back split nonempty
    cases front with
    | nil =>
        obtain rfl : c :: plain = back := split
        simpa using first
    | cons head front =>
        obtain ⟨rfl, rfl⟩ := List.cons.inj split
        simpa using quiet front back rfl nonempty

theorem quiet_append_iff {before front plain after : List Char} :
    Quiet before (front ++ plain) after ↔
      Quiet before front (plain ++ after) ∧ Quiet (before ++ front) plain after := by
  induction front generalizing before with
  | nil => simp
  | cons c front induction =>
      rw [List.cons_append, quiet_cons_iff, quiet_cons_iff, induction, and_assoc]
      simp

/-- A text as plain text and checks in turn. -/
inductive Reading where
  /-- Plain text to the end. -/
  | last (plain : List Char)
  /-- Plain text, a check, and what is behind it. -/
  | next (plain : List Char) (check : Check) (after : Reading)

namespace Reading

/-- The text that is read. -/
def text : Reading → List Char
  | last plain => plain
  | next plain check after => plain ++ check.text ++ after.text

/-- The text with every check replaced. -/
def expanded : Reading → List Char
  | last plain => plain
  | next plain check after => plain ++ check.replacement ++ after.expanded

/-- The checks in order. -/
def checks : Reading → List Check
  | last _ => []
  | next _ check after => check :: after.checks

/-- Behind what is before, a check is taken wherever one is met, and nothing else is taken. -/
def IsLeftmost (before : List Char) : Reading → Prop
  | last plain => Quiet before plain []
  | next plain check after => Quiet before plain (check.text ++ after.text) ∧
      Joins (before ++ plain) = false ∧ check.IsComplete ∧
        after.IsLeftmost (before ++ plain ++ check.text)

/-- What expanding the text comes to: the first check that is not of a primitive type is refused. -/
def outcome : Reading → Except String (List Char)
  | last plain => .ok plain
  | next plain check after =>
    if check.typeName ∈ primitives then after.outcome.map (plain ++ check.replacement ++ ·)
    else .error check.typeName

/-- The reading with more plain text in front. -/
def prepend (front : List Char) : Reading → Reading
  | last plain => last (front ++ plain)
  | next plain check after => next (front ++ plain) check after

@[simp] theorem text_prepend (front : List Char) (reading : Reading) :
    (reading.prepend front).text = front ++ reading.text := by
  cases reading <;> simp [prepend, text]

theorem outcome_prepend (front : List Char) (reading : Reading) :
    (reading.prepend front).outcome = reading.outcome.map (front ++ ·) := by
  cases reading with
  | last plain => rfl
  | next plain check after =>
      rw [prepend, outcome, outcome]
      split
      · cases after.outcome <;> simp [Except.map, List.append_assoc]
      · rfl

theorem isLeftmost_prepend {before front : List Char} {reading : Reading}
    (quiet : Quiet before front reading.text) (leftmost : reading.IsLeftmost (before ++ front)) :
    (reading.prepend front).IsLeftmost before := by
  cases reading with
  | last plain =>
      refine quiet_append_iff.mpr ⟨?_, leftmost⟩
      simpa [text] using quiet
  | next plain check after =>
      obtain ⟨plain_quiet, alone, complete, leftmost⟩ := leftmost
      refine ⟨quiet_append_iff.mpr ⟨?_, plain_quiet⟩, ?_, complete, ?_⟩
      · simpa [text, List.append_assoc] using quiet
      · simpa [List.append_assoc] using alone
      · simpa [List.append_assoc] using leftmost

theorem prefix_of_quiet {before plain other after rest : List Char} {check : Check}
    (quiet : Quiet before plain after) (alone : Joins (before ++ other) = false)
    (complete : check.IsComplete) (same : plain ++ after = other ++ check.text ++ rest) :
    plain <+: other := by
  rw [List.append_assoc] at same
  obtain ⟨more, rfl, _⟩ | ⟨back, rfl, back_eq⟩ := List.append_eq_append_iff.mp same
  · exact List.prefix_append plain more
  · cases back with
    | nil => simp
    | cons c back =>
        exact absurd ⟨alone, complete, back_eq.symm⟩
          (quiet other (c :: back) rfl (List.cons_ne_nil c back) check rest)

/-- A check is no plain text to the end. -/
theorem not_quiet_of_check {before plain rest : List Char} {check : Check}
    (alone : Joins (before ++ plain) = false) (complete : check.IsComplete) :
    ¬Quiet before (plain ++ check.text ++ rest) [] := by
  intro quiet
  have short := (prefix_of_quiet quiet alone complete (List.append_nil _)).length_le
  simp only [List.length_append, Check.text, List.length_cons] at short
  omega

theorem IsLeftmost.unique {before : List Char} {reading other : Reading}
    (leftmost : reading.IsLeftmost before) (other_leftmost : other.IsLeftmost before)
    (same : reading.text = other.text) : reading = other := by
  induction reading generalizing before other with
  | last plain =>
      cases other with
      | last other => exact congrArg last same
      | next front check after =>
          obtain ⟨_, alone, complete, _⟩ := other_leftmost
          obtain rfl : plain = front ++ check.text ++ after.text := same
          exact absurd leftmost (not_quiet_of_check alone complete)
  | next plain check after induction =>
      obtain ⟨quiet, alone, complete, leftmost⟩ := leftmost
      cases other with
      | last other =>
          obtain rfl : plain ++ check.text ++ after.text = other := same
          exact absurd other_leftmost (not_quiet_of_check alone complete)
      | next front other after' =>
          obtain ⟨other_quiet, other_alone, other_complete, other_leftmost⟩ := other_leftmost
          have longer := prefix_of_quiet quiet other_alone other_complete
            ((List.append_assoc _ _ _).symm.trans same)
          have shorter := prefix_of_quiet other_quiet alone complete
            ((List.append_assoc _ _ _).symm.trans same.symm)
          obtain rfl := longer.eq_of_length (Nat.le_antisymm longer.length_le shorter.length_le)
          have rest_eq : check.text ++ after.text = other.text ++ after'.text := by
            simpa [text, List.append_assoc] using same
          have meets : Meets (before ++ plain) (check.text ++ after.text) check after.text :=
            ⟨alone, complete, rfl⟩
          obtain ⟨rfl, after_eq⟩ := meets.unique ⟨other_alone, other_complete, rest_eq⟩
          rw [induction leftmost other_leftmost after_eq]

theorem outcome_eq (reading : Reading) :
    reading.outcome = match reading.checks.find? (·.typeName ∉ primitives) with
      | none => .ok reading.expanded
      | some check => .error check.typeName := by
  induction reading with
  | last plain => rfl
  | next plain check after induction =>
      rw [outcome, checks, List.find?_cons]
      by_cases primitive : check.typeName ∈ primitives
      · rw [if_pos primitive, induction]
        simp only [primitive, not_true_eq_false, decide_false]
        cases after.checks.find? _ <;> rfl
      · rw [if_neg primitive]
        simp only [primitive, not_false_eq_true, decide_true]

end Reading

/-! ## Expansion follows the reading -/

theorem expand_mark (joined : Bool) (rest : List Char) :
    expand joined (mark ++ rest) = match check? rest with
      | some (check, after) =>
        if joined then (expand false rest).map (mark ++ ·)
        else if check.typeName ∈ primitives then (expand false after).map (check.replacement ++ ·)
        else .error check.typeName
      | none => (expand false rest).map (mark ++ ·) := by
  rw [show mark ++ rest = 'i' :: 's' :: '<' :: rest from rfl, expand]
  split <;> rename_i found <;> simp only [found]

theorem expand_cons (joined : Bool) {c : Char} {rest : List Char}
    (unmarked : ¬mark <+: c :: rest) :
    expand joined (c :: rest) = (expand (isIdentifier c) rest).map (c :: ·) := by
  rw [expand]
  rintro tail rfl rfl
  exact unmarked ⟨tail, rfl⟩

theorem Meets.mark_prefix {before text after : List Char} {check : Check}
    (meets : Meets before text check after) : mark <+: text := by
  obtain ⟨rest, rfl, _⟩ := meets.check?
  exact List.prefix_append mark rest

/-- The reading of a text behind what is before, and what the text is expanded to. -/
structure Reading.Explains (reading : Reading) (before text : List Char) : Prop where
  text_eq : reading.text = text
  leftmost : reading.IsLeftmost before
  expand_eq : expand (Joins before) text = reading.outcome

/-- Plain text in which no check begins is skipped. -/
theorem Reading.Explains.prepend {reading : Reading} {before front text : List Char}
    (explains : reading.Explains (before ++ front) text) (quiet : Quiet before front text)
    (skipped : expand (Joins before) (front ++ text) =
      (expand (Joins (before ++ front)) text).map (front ++ ·)) :
    (reading.prepend front).Explains before (front ++ text) where
  text_eq := by rw [text_prepend, explains.text_eq]
  leftmost := isLeftmost_prepend (explains.text_eq ▸ quiet) explains.leftmost
  expand_eq := by rw [skipped, explains.expand_eq, outcome_prepend]

theorem quiet_mark {before rest : List Char}
    (unmet : ∀ check after, ¬Meets before (mark ++ rest) check after) : Quiet before mark rest := by
  have unmarked {before text : List Char} (other : ¬mark <+: text) (check : Check)
      (after : List Char) : ¬Meets before text check after := fun meets => other meets.mark_prefix
  refine quiet_cons_iff.mpr ⟨unmet, quiet_cons_iff.mpr ⟨unmarked ?_, quiet_cons_iff.mpr
    ⟨unmarked ?_, quiet_nil _ _⟩⟩⟩ <;> simp [mark]

/-- A mark at which no check is met is skipped. -/
theorem expand_mark_of_unmet {before rest : List Char}
    (unmet : ∀ check after, ¬Meets before (mark ++ rest) check after) :
    expand (Joins before) (mark ++ rest) = (expand false rest).map (mark ++ ·) := by
  rw [expand_mark]
  cases found : check? rest with
  | none => rfl
  | some taken =>
      obtain ⟨check, after⟩ := taken
      obtain ⟨text_eq, complete⟩ := check?_eq_some_iff.mp found
      have joined : Joins before = true := by
        by_contra alone
        exact unmet check after ⟨Bool.eq_false_iff.mpr alone, complete, text_eq⟩
      exact if_pos joined

/-- Every text has a reading, and its expansion follows the reading. -/
theorem exists_reading (before text : List Char) :
    ∃ reading : Reading, reading.Explains before text := by
  generalize length_eq : text.length = length
  induction length using Nat.strongRecOn generalizing before text with
  | ind length induction =>
      subst length_eq
      by_cases marked : mark <+: text
      · obtain ⟨rest, rfl⟩ := marked
        have rest_short : rest.length < (mark ++ rest).length := by
          rw [List.length_append]
          exact Nat.lt_add_of_pos_left (by decide)
        by_cases met : ∃ check after, Meets before (mark ++ rest) check after
        · obtain ⟨check, after, meets⟩ := met
          obtain ⟨_, same, found⟩ := meets.check?
          obtain rfl := List.append_cancel_left same
          obtain ⟨reading, explains⟩ := induction _ (Nat.lt_trans (length_check? found) rest_short)
            (before ++ check.text) after rfl
          refine ⟨.next [] check reading, ?_, ⟨quiet_nil _ _, ?_, meets.complete, ?_⟩, ?_⟩
          · rw [Reading.text, explains.text_eq, meets.text_eq, List.nil_append]
          · rw [List.append_nil, meets.alone]
          · rw [List.append_nil]
            exact explains.leftmost
          · have expand_eq := explains.expand_eq
            rw [joins_text] at expand_eq
            rw [expand_mark, found, meets.alone, Reading.outcome, ← expand_eq]
            rfl
        · push Not at met
          have joins_eq : Joins (before ++ mark) = false := by
            rw [show mark = ['i', 's'] ++ ['<'] from rfl, joins_append_concat]
            decide +kernel
          obtain ⟨reading, explains⟩ := induction _ rest_short (before ++ mark) rest rfl
          refine ⟨reading.prepend mark, explains.prepend (quiet_mark met) ?_⟩
          rw [joins_eq, expand_mark_of_unmet met]
      · cases text with
        | nil => exact ⟨.last [], rfl, quiet_nil _ _, by rw [expand]; rfl⟩
        | cons c rest =>
            obtain ⟨reading, explains⟩ :=
              induction _ (Nat.lt_succ_self rest.length) (before ++ [c]) rest rfl
            refine ⟨reading.prepend [c], explains.prepend ?_ ?_⟩
            · exact quiet_cons_iff.mpr ⟨fun _ _ meets => marked meets.mark_prefix, quiet_nil _ _⟩
            · rw [joins_concat]
              exact expand_cons _ marked

/-! ## Units -/

theorem Reading.outcome_eq_ok_iff {reading : Reading} {out : List Char} :
    reading.outcome = .ok out ↔
      (∀ check ∈ reading.checks, check.typeName ∈ primitives) ∧ out = reading.expanded := by
  have primitive_iff : reading.checks.find? (·.typeName ∉ primitives) = none ↔
      ∀ check ∈ reading.checks, check.typeName ∈ primitives := by
    simp
  rw [outcome_eq, ← primitive_iff]
  cases reading.checks.find? _ with
  | none => exact ⟨fun same => ⟨rfl, (Except.ok.inj same).symm⟩, fun both => congrArg _ both.2.symm⟩
  | some check => exact iff_of_false nofun fun both => nomatch both.1

theorem Reading.outcome_eq_error_iff {reading : Reading} {type : String} :
    reading.outcome = .error type ↔
      ∃ check, reading.checks.find? (·.typeName ∉ primitives) = some check ∧
        type = check.typeName := by
  rw [outcome_eq]
  cases reading.checks.find? _ with
  | none => exact iff_of_false nofun fun ⟨_, found, _⟩ => nomatch found
  | some check =>
      constructor
      · intro same
        exact ⟨check, rfl, (Except.error.inj same).symm⟩
      · rintro ⟨_, found, rfl⟩
        rw [Option.some.inj found]

theorem transform_eq_ok_iff {unit result : SourceFile} : transform unit = .ok result ↔
    ∃ text, expand false unit.text.toList = .ok text ∧
      result = { unit with text := String.ofList text } := by
  rw [transform]
  cases expand false unit.text.toList with
  | ok text =>
      constructor
      · intro same
        exact ⟨text, rfl, (Except.ok.inj same).symm⟩
      · rintro ⟨_, found, rfl⟩
        rw [Except.ok.inj found]
  | error type => exact iff_of_false nofun fun ⟨_, found, _⟩ => nomatch found

theorem transform_eq_error_iff {unit : SourceFile} {cause : TransformError} :
    transform unit = .error cause ↔ ∃ type, expand false unit.text.toList = .error type ∧
      cause = .failed unit.name ("unsupported type `" ++ type ++ "` in runtime check") := by
  rw [transform]
  cases expand false unit.text.toList with
  | ok text => exact iff_of_false nofun fun ⟨_, found, _⟩ => nomatch found
  | error type =>
      constructor
      · intro same
        exact ⟨type, rfl, (Except.error.inj same).symm⟩
      · rintro ⟨_, found, rfl⟩
        rw [Except.error.inj found]

/-- Expanding the checks in a unit follows the one reading of its text, in which every complete
check that stands alone is taken from left to right. If all of them are for primitive types, each is
replaced and the plain text between them is copied; otherwise the first other type is refused. -/
theorem transform_follows_reading (unit : SourceFile) :
    ∃ reading : Reading, reading.text = unit.text.toList ∧ reading.IsLeftmost [] ∧
      (∀ other : Reading, other.text = unit.text.toList → other.IsLeftmost [] →
        other = reading) ∧
      (∀ result, transform unit = .ok result ↔
        (∀ check ∈ reading.checks, check.typeName ∈ primitives) ∧
          result = { unit with text := String.ofList reading.expanded }) ∧
      ∀ cause, transform unit = .error cause ↔
        ∃ check, reading.checks.find? (·.typeName ∉ primitives) = some check ∧
          cause = .failed unit.name
            ("unsupported type `" ++ check.typeName ++ "` in runtime check") := by
  obtain ⟨reading, text_eq, leftmost, expand_eq⟩ := exists_reading [] unit.text.toList
  rw [joins_nil] at expand_eq
  refine ⟨reading, text_eq, leftmost, fun other same other_leftmost =>
    other_leftmost.unique leftmost (same.trans text_eq.symm), fun result => ?_, fun cause => ?_⟩
  · rw [transform_eq_ok_iff, expand_eq]
    constructor
    · rintro ⟨_, same, rfl⟩
      obtain ⟨primitive, rfl⟩ := Reading.outcome_eq_ok_iff.mp same
      exact ⟨primitive, rfl⟩
    · rintro ⟨primitive, rfl⟩
      exact ⟨_, Reading.outcome_eq_ok_iff.mpr ⟨primitive, rfl⟩, rfl⟩
  · rw [transform_eq_error_iff, expand_eq]
    constructor
    · rintro ⟨_, same, rfl⟩
      obtain ⟨check, refused, rfl⟩ := Reading.outcome_eq_error_iff.mp same
      exact ⟨check, refused, rfl⟩
    · rintro ⟨check, refused, rfl⟩
      exact ⟨_, Reading.outcome_eq_error_iff.mpr ⟨check, refused, rfl⟩, rfl⟩

end RuntimeCheck
end Workbench
