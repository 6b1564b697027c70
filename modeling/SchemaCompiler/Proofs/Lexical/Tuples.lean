/-
**Reading tuples back.**

An engine reads the text behind VALUES as tuples with commas between them, and a tuple as values with
commas between them. Commas and parentheses between quotes mean nothing, and neither do blanks around
tuples and values. Values that keep commas and parentheses between quotes are read back as they were
written, whatever stands between the quotes.

* `Dialect.pieces?_append` — what has no commas and parentheses outside quotes is passed over.
* `Dialect.readList?_intercalate` — whole texts with commas between them are read back.
* `Dialect.readTuples?_intercalate` — so are the values of tuples.
-/

import SchemaCompiler.Proofs.Lexical.Scan
import SchemaCompiler.Text.Blank

namespace SchemaCompiler

namespace Dialect

/-! ### The reader -/

/-- The depth of parentheses after one more character; nothing when one closes that is not open. -/
def nest? (position : Position) (depth : Nat) (c : Char) : Option Nat :=
  if position = .outside ∧ c = '(' then some (depth + 1)
  else if position = .outside ∧ c = ')' then if depth = 0 then none else some (depth - 1)
  else some depth

/-- Pieces with a text in front of the first one. -/
def before (text : List Char) : Option (List (List Char)) → Option (List (List Char)) :=
  Option.map (List.modifyHead (text ++ ·))

/-- The pieces of a text between the commas outside quotes and parentheses; nothing when a quote or
a parenthesis is left open. -/
def pieces? (d : Dialect) : Position → Nat → List Char → Option (List (List Char))
  | position, depth, [] => if position = .outside ∧ depth = 0 then some [[]] else none
  | position, depth, c :: rest =>
    if position = .outside ∧ depth = 0 ∧ c = ',' then (d.pieces? .outside 0 rest).map ([] :: ·)
    else
      (nest? position depth c).bind fun depth =>
        before [c] (d.pieces? (d.advance position c) depth rest)

/-- The pieces of a text without the blanks around them. -/
def readList? (d : Dialect) (text : String) : Option (List String) :=
  (d.pieces? .outside 0 text.toList).map fun pieces =>
    pieces.map fun piece => Text.trim (String.ofList piece)

/-- The values between the parentheses of a tuple. -/
def readTuple? (d : Dialect) (tuple : String) : Option (List String) :=
  if tuple.toList.head? = some '(' ∧ tuple.toList.getLast? = some ')' then
    d.readList? (String.ofList tuple.toList.tail.dropLast)
  else none

/-- The values of tuples with commas between them. -/
def readTuples? (d : Dialect) (text : String) : Option (List (List String)) :=
  (d.readList? text).bind fun tuples => tuples.mapM d.readTuple?

@[simp] theorem before_nil (pieces : Option (List (List Char))) : before [] pieces = pieces := by
  rcases pieces with _ | ⟨_ | _⟩ <;> rfl

@[simp] theorem before_before (front back : List Char) (pieces : Option (List (List Char))) :
    before front (before back pieces) = before (front ++ back) pieces := by
  rcases pieces with _ | ⟨_ | _⟩ <;> simp [before]

section Reader

variable {d : Dialect}

/-! ### Passing over -/

/-- What has no parentheses outside quotes, and at depth zero no commas either, is a part of one
piece. -/
theorem pieces?_append {position : Position} {depth : Nat} {front : List Char}
    (calm : ∀ c ∈ d.bare position front, c ≠ '(' ∧ c ≠ ')' ∧ (depth = 0 → c ≠ ','))
    (back : List Char) :
    d.pieces? position depth (front ++ back) =
      before front (d.pieces? (d.after position front) depth back) := by
  induction front generalizing position with
  | nil => simp
  | cons c rest ih =>
    -- A character read outside quotes belongs to the bare text, so it changes no depth and, at depth
    -- zero, splits nothing; one between quotes does neither anyway.
    have here : position = .outside → c ≠ '(' ∧ c ≠ ')' ∧ (depth = 0 → c ≠ ',') := by
      intro isOutside
      refine calm c ?_
      rw [bare, if_pos (.inl isOutside)]
      exact List.mem_cons_self
    have later : ∀ other ∈ d.bare (d.advance position c) rest,
        other ≠ '(' ∧ other ≠ ')' ∧ (depth = 0 → other ≠ ',') := by
      intro other member
      refine calm other ?_
      rw [bare]
      split
      · exact List.mem_cons_of_mem _ member
      · exact member
    have noComma : ¬ (position = .outside ∧ depth = 0 ∧ c = ',') := by
      rintro ⟨isOutside, atTop, comma⟩
      exact (here isOutside).2.2 atTop comma
    have sameDepth : nest? position depth c = some depth := by
      rw [nest?, if_neg fun opens => (here opens.1).1 opens.2,
        if_neg fun closes => (here closes.1).2.1 closes.2]
    rw [List.cons_append, pieces?, if_neg noComma, sameDepth, Option.bind_some, ih later,
      after_cons, before_before]
    rfl

/-! ### Whole texts -/

/-- A text that is read as a part of one piece, whatever follows. -/
def Whole (d : Dialect) (text : List Char) : Prop :=
  ∀ back, d.pieces? .outside 0 (text ++ back) = before text (d.pieces? .outside 0 back)

namespace Whole

theorem append {front back : List Char} (first : d.Whole front) (second : d.Whole back) :
    d.Whole (front ++ back) := by
  intro rest
  rw [List.append_assoc, first, second, before_before]

/-- A text in parentheses is whole when it closes its quotes and has no other parentheses. -/
theorem parenthesized {text : List Char} (closes : d.after .outside text = .outside)
    (calm : ∀ c ∈ d.bare .outside text, c ≠ '(' ∧ c ≠ ')') :
    d.Whole ('(' :: text ++ [')']) := by
  have plain {c : Char} (isParenthesis : c = '(' ∨ c = ')') : d.advance .outside c = .outside := by
    rcases isParenthesis with rfl | rfl <;> cases d <;> decide
  intro back
  -- Commas of the text split nothing, for the depth is one until the last parenthesis.
  have inside : d.pieces? .outside 1 (text ++ ')' :: back) =
      before text (d.pieces? (d.after .outside text) 1 (')' :: back)) :=
    pieces?_append (fun c member =>
      ⟨(calm c member).1, (calm c member).2, fun zero => absurd zero (by decide)⟩) _
  rw [closes] at inside
  have closed : d.pieces? .outside 1 (')' :: back) = before [')'] (d.pieces? .outside 0 back) := by
    rw [pieces?, plain (.inr rfl)]
    rfl
  have opened : d.pieces? .outside 0 ('(' :: (text ++ ')' :: back)) =
      before ['('] (d.pieces? .outside 1 (text ++ ')' :: back)) := by
    rw [pieces?, plain (.inl rfl)]
    rfl
  simp only [List.cons_append, List.append_assoc, List.nil_append]
  rw [opened, inside, closed, before_before, before_before]
  simp

/-- Whole texts with commas between them are read as pieces. -/
theorem pieces?_join {first : List Char} {rest : List (List Char)}
    (each : ∀ text ∈ first :: rest, d.Whole text) :
    d.pieces? .outside 0 (first ++ rest.flatMap (',' :: ·)) = some (first :: rest) := by
  induction rest generalizing first with
  | nil =>
    rw [List.flatMap_nil, each first List.mem_cons_self]
    simp [pieces?, before]
  | cons next rest ih =>
    have others := ih fun text member => each text (List.mem_cons_of_mem _ member)
    rw [List.flatMap_cons, List.cons_append, each first List.mem_cons_self, pieces?,
      if_pos ⟨rfl, rfl, rfl⟩, others]
    simp [before]

/-- A text whose commas and parentheses are all between quotes is whole. -/
theorem of_calm {text : List Char} (closes : d.after .outside text = .outside)
    (calm : ∀ c ∈ d.bare .outside text, c ∉ [',', '(', ')']) : d.Whole text := by
  intro back
  have passed : d.pieces? .outside 0 (text ++ back) =
      before text (d.pieces? (d.after .outside text) 0 back) :=
    pieces?_append (fun c member => by
      simpa [and_assoc, and_comm, and_left_comm] using calm c member) back
  rwa [closes] at passed

theorem of_blank {text : List Char} (blank : ∀ c ∈ text, Text.isBlank c = true) :
    d.Whole text := by
  have unmarked : ∀ c ∈ text, c ≠ d.quoteMark ∧ c ≠ '\'' := fun c member =>
    unmarked_of Text.isBlank (by decide) (blank c member)
  refine of_calm (after_of_unmarked unmarked) fun c member => ?_
  rw [bare_of_unmarked unmarked] at member
  exact notMem_of_class Text.isBlank (by decide) (blank c member)

end Whole

/-! ### Lists -/

theorem toList_intercalate_cons (separator first : String) (rest : List String) :
    (separator.intercalate (first :: rest)).toList =
      first.toList ++ rest.flatMap fun text => separator.toList ++ text.toList := by
  induction rest generalizing first with
  | nil => simp
  | cons next rest ih => simp [String.intercalate_cons_cons, ih]

/-- Whole texts without blanks at their ends are read back when commas and blanks stand between
them. -/
theorem readList?_intercalate {lead pad : String} {texts : List String} (nonempty : texts ≠ [])
    (leadBlank : lead.toList.all Text.isBlank = true)
    (padBlank : pad.toList.all Text.isBlank = true)
    (whole : ∀ text ∈ texts, d.Whole text.toList)
    (trimmed : ∀ text ∈ texts, Text.trimmed text.toList = text.toList) :
    d.readList? (lead ++ ("," ++ pad).intercalate texts) = some texts := by
  obtain ⟨first, rest, rfl⟩ := List.exists_cons_of_ne_nil nonempty
  rw [List.all_eq_true] at leadBlank padBlank
  have layout : (lead ++ ("," ++ pad).intercalate (first :: rest)).toList =
      (lead.toList ++ first.toList) ++
        (rest.map fun text => pad.toList ++ text.toList).flatMap (',' :: ·) := by
    rw [String.toList_append, toList_intercalate_cons, String.toList_append]
    simp [List.flatMap_map]
  have each : ∀ piece ∈ (lead.toList ++ first.toList) ::
      rest.map fun text => pad.toList ++ text.toList, d.Whole piece := by
    intro piece member
    rcases List.mem_cons.mp member with rfl | inRest
    · exact (Whole.of_blank leadBlank).append (whole first List.mem_cons_self)
    · obtain ⟨text, isText, rfl⟩ := List.mem_map.mp inRest
      exact (Whole.of_blank padBlank).append (whole text (List.mem_cons_of_mem _ isText))
  have trim {blanks text : String} (blank : ∀ c ∈ blanks.toList, Text.isBlank c = true)
      (isTrimmed : Text.trimmed text.toList = text.toList) :
      Text.trim (String.ofList (blanks.toList ++ text.toList)) = text := by
    rw [Text.trim, String.toList_ofList, Text.trimmed_append_of_blank blank, isTrimmed,
      String.ofList_toList]
  rw [readList?, layout, Whole.pieces?_join each, Option.map_some, List.map_cons, List.map_map,
    trim leadBlank (trimmed first List.mem_cons_self)]
  congr 2
  refine (List.map_congr_left fun text member => ?_).trans (List.map_id' rest)
  exact trim padBlank (trimmed text (List.mem_cons_of_mem _ member))

/-! ### Values -/

/-- A text that stands as a value between commas: its commas and parentheses are between quotes, and
it neither starts nor ends with a blank. -/
structure IsValue (d : Dialect) (text : String) : Prop where
  closes : d.Closes text
  calm : ∀ c ∈ d.bareText text, c ∉ [',', '(', ')']
  trimmed : Text.trimmed text.toList = text.toList

/-- The text of a tuple. -/
def tupleText (values : List String) : String :=
  "(" ++ ", ".intercalate values ++ ")"

/-- Values with commas between them have no parentheses outside quotes. -/
theorem IsValue.inTuple {values : List String} (each : ∀ value ∈ values, d.IsValue value) :
    d.Closes (", ".intercalate values) ∧
      ∀ c ∈ d.bareText (", ".intercalate values), c ≠ '(' ∧ c ≠ ')' := by
  refine holds_intercalate
    (motive := fun text => d.Closes text ∧ ∀ c ∈ d.bareText text, c ≠ '(' ∧ c ≠ ')')
    ⟨rfl, fun c member => (List.not_mem_nil member).elim⟩ ?_ ?_ ?_
  · rintro front back ⟨closes, calm⟩ ⟨closesToo, calmToo⟩
    refine ⟨closes.append closesToo, fun c member => ?_⟩
    rw [bareText_append closes, List.mem_append] at member
    exact member.elim (calm c) (calmToo c)
  · have separator : d.Closes ", " ∧ d.bareText ", " = [',', ' '] := by
      cases d <;> decide
    refine ⟨separator.1, ?_⟩
    rw [separator.2]
    simp
  · intro value isValue
    refine ⟨(each value isValue).closes, fun c inValue => ?_⟩
    have calm := (each value isValue).calm c inValue
    simp only [List.mem_cons, not_or] at calm
    exact ⟨calm.2.1, calm.2.2.1⟩

theorem IsValue.whole {value : String} (isValue : d.IsValue value) : d.Whole value.toList :=
  .of_calm isValue.closes isValue.calm

theorem toList_tupleText (values : List String) :
    (tupleText values).toList = '(' :: (", ".intercalate values).toList ++ [')'] := by
  rw [tupleText, String.toList_append, String.toList_append]
  rfl

theorem whole_tupleText {values : List String} (each : ∀ value ∈ values, d.IsValue value) :
    d.Whole (tupleText values).toList := by
  obtain ⟨closes, calm⟩ := IsValue.inTuple each
  rw [toList_tupleText]
  exact .parenthesized closes calm

theorem trimmed_tupleText (values : List String) :
    Text.trimmed (tupleText values).toList = (tupleText values).toList := by
  rw [toList_tupleText]
  refine Text.trimmed_eq_self (fun c isFirst => ?_) fun c isLast => ?_
  · cases isFirst
    decide
  · rw [List.getLast?_concat] at isLast
    cases isLast
    decide

/-- The values of a tuple are read back. -/
theorem readTuple?_tupleText {values : List String} (nonempty : values ≠ [])
    (each : ∀ value ∈ values, d.IsValue value) :
    d.readTuple? (tupleText values) = some values := by
  have inside : d.readList? (", ".intercalate values) = some values := by
    have read : d.readList? ("" ++ ("," ++ " ").intercalate values) = some values :=
      readList?_intercalate nonempty (by decide) (by decide)
        (fun value isValue => (each value isValue).whole)
        fun value isValue => (each value isValue).trimmed
    simpa using read
  rw [readTuple?, toList_tupleText, if_pos ⟨rfl, List.getLast?_concat⟩, List.cons_append,
    List.tail_cons, List.dropLast_concat, String.ofList_toList, inside]

/-- **Tuples of values are read back**, each value in its place. -/
theorem readTuples?_intercalate {lead : String} {rows : List (List String)} (nonempty : rows ≠ [])
    (blank : lead.toList.all Text.isBlank = true)
    (filled : ∀ values ∈ rows, values ≠ [])
    (each : ∀ values ∈ rows, ∀ value ∈ values, d.IsValue value) :
    d.readTuples? (lead ++ ("," ++ lead).intercalate (rows.map tupleText)) = some rows := by
  have tuples : d.readList? (lead ++ ("," ++ lead).intercalate (rows.map tupleText)) =
      some (rows.map tupleText) := by
    refine readList?_intercalate (by simpa using nonempty) blank blank (fun text member => ?_)
      fun text member => ?_
    · obtain ⟨values, isRow, rfl⟩ := List.mem_map.mp member
      exact whole_tupleText (each values isRow)
    · obtain ⟨values, -, rfl⟩ := List.mem_map.mp member
      exact trimmed_tupleText values
  rw [readTuples?, tuples, Option.bind_some]
  clear tuples nonempty
  induction rows with
  | nil => rfl
  | cons values rest ih =>
    have others := ih (fun row inRest => filled row (List.mem_cons_of_mem _ inRest))
      fun row inRest => each row (List.mem_cons_of_mem _ inRest)
    have first := readTuple?_tupleText (filled values List.mem_cons_self)
      (each values List.mem_cons_self)
    rw [List.map_cons, List.mapM_cons, first, others]
    rfl

end Reader

end Dialect

end SchemaCompiler
