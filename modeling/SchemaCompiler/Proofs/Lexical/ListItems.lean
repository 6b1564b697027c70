/-
**Lists of operands.**

The value of IN and NOT IN is cut at its commas, and what is left of each piece without blanks is an
item. Quotes do not keep a comma: quoted texts are read as items of their own exactly when there is no
comma in them. And a value of commas and blanks has no items, though it is not blank.

* `exists_mem_splitOn_iff` — what the pieces of a list hold.
* `Dialect.listItems_intercalate` — items without commas are read back.
* `Dialect.listItems_eq_nil_iff` — the values without items.
* `Dialect.conditionText_quotedItems_iff` — when quoted texts are written as they are.
-/

import SchemaCompiler.Proofs.Lexical.Insert
import SchemaCompiler.Proofs.Lexical.Select
import SchemaCompiler.Proofs.Literal.Quoting
import SchemaCompiler.Proofs.Query.Coverage

namespace SchemaCompiler

/-! ### Pieces -/

section Pieces

variable {α : Type} [BEq α] [LawfulBEq α] {mark item : α} {items : List α}

/-- **What the pieces of a list hold**: all of its items but the marks at which it is cut. -/
theorem exists_mem_splitOn_iff :
    (∃ piece ∈ items.splitOn mark, item ∈ piece) ↔ item ∈ items ∧ item ≠ mark := by
  induction items with
  | nil => simp [List.splitOn_nil]
  | cons first rest ih =>
    rw [List.splitOn_cons_eq_if_modifyHead]
    by_cases isMark : first = mark
    · rw [if_pos (beq_iff_eq.mpr isMark)]
      simp only [List.mem_cons, exists_eq_or_imp, List.not_mem_nil, false_or, ih]
      constructor
      · exact fun ⟨inRest, other⟩ => ⟨.inr inRest, other⟩
      · rintro ⟨isFirst | inRest, other⟩
        · exact absurd (isFirst.trans isMark) other
        · exact ⟨inRest, other⟩
    · rw [if_neg (by simpa using isMark)]
      obtain ⟨piece, pieces, split⟩ := List.exists_cons_of_ne_nil (List.splitOn_ne_nil mark rest)
      rw [split] at ih ⊢
      simp only [List.modifyHead_cons, List.mem_cons, exists_eq_or_imp, or_assoc] at ih ⊢
      rw [ih]
      constructor
      · rintro (rfl | ⟨inRest, other⟩)
        · exact ⟨.inl rfl, isMark⟩
        · exact ⟨.inr inRest, other⟩
      · rintro ⟨isFirst | inRest, other⟩
        · exact .inl isFirst
        · exact .inr ⟨inRest, other⟩

end Pieces

/-- IN and NOT IN take a list, which is a value. -/
theorem Operator.takes_of_isList {operator : Operator}
    (isList : operator = .isIn ∨ operator = .notIn) :
    operator.takesList = true ∧ operator.takesValue = true := by
  rcases isList with rfl | rfl
  · exact ⟨rfl, rfl⟩
  · exact ⟨rfl, rfl⟩

namespace Dialect

/-! ### Items -/

section Items

variable {value : String}

theorem mem_listItems_iff {item : String} :
    item ∈ listItems value ↔
      item ≠ "" ∧ ∃ piece ∈ value.toList.splitOn ',', Text.trim (String.ofList piece) = item := by
  simp [listItems, and_comm]

/-- No item has a comma. -/
theorem comma_notMem_of_mem_listItems {item : String} (member : item ∈ listItems value) :
    ',' ∉ item.toList := by
  obtain ⟨-, piece, isPiece, rfl⟩ := mem_listItems_iff.mp member
  intro comma
  rw [Text.trim, String.toList_ofList, String.toList_ofList] at comma
  exact (exists_mem_splitOn_iff.mp ⟨piece, isPiece, Text.mem_of_mem_trimmed comma⟩).2 rfl

/-- **A value has no items** exactly when it is made of commas and blanks. -/
theorem listItems_eq_nil_iff :
    listItems value = [] ↔ ∀ c ∈ value.toList, c = ',' ∨ Text.isBlank c = true := by
  have noItem : listItems value = [] ↔
      ∀ piece ∈ value.toList.splitOn ',', ∀ c ∈ piece, Text.isBlank c = true := by
    simp [listItems, List.filter_eq_nil_iff, Text.trim_eq_empty_iff]
  rw [noItem]
  constructor
  · intro blank c member
    by_cases comma : c = ','
    · exact .inl comma
    · obtain ⟨piece, isPiece, inPiece⟩ := exists_mem_splitOn_iff.mpr ⟨member, comma⟩
      exact .inr (blank piece isPiece c inPiece)
  · intro each piece isPiece c inPiece
    obtain ⟨member, noComma⟩ := exists_mem_splitOn_iff.mp ⟨piece, isPiece, inPiece⟩
    exact (each c member).resolve_left noComma

end Items

/-- A text that stands as an item between commas. -/
structure IsItem (text : String) : Prop where
  nonempty : text ≠ ""
  free : ',' ∉ text.toList
  trimmed : Text.trimmed text.toList = text.toList

namespace IsItem

variable {text : String} {lead : List Char}

theorem comma_notMem_append (isItem : IsItem text) (blank : ∀ c ∈ lead, Text.isBlank c = true) :
    ',' ∉ lead ++ text.toList := by
  rw [List.mem_append, not_or]
  exact ⟨fun member => absurd (blank _ member) (by decide), isItem.free⟩

theorem trim_append (isItem : IsItem text) (blank : ∀ c ∈ lead, Text.isBlank c = true) :
    Text.trim (String.ofList (lead ++ text.toList)) = text := by
  rw [Text.trim, String.toList_ofList, Text.trimmed_append_of_blank blank, isItem.trimmed,
    String.ofList_toList]

end IsItem

/-- Items are the pieces between the commas, blanks at their ends apart. -/
theorem trim_splitOn_intercalate {first : String} {rest : List String}
    (each : ∀ text ∈ first :: rest, IsItem text) (lead : List Char)
    (blank : ∀ c ∈ lead, Text.isBlank c = true) :
    ((lead ++ (", ".intercalate (first :: rest)).toList).splitOn ',').map
      (fun piece => Text.trim (String.ofList piece)) = first :: rest := by
  induction rest generalizing first lead with
  | nil =>
    have isItem := each first List.mem_cons_self
    rw [String.intercalate_singleton, List.splitOn_eq_singleton (isItem.comma_notMem_append blank),
      List.map_singleton, isItem.trim_append blank]
  | cons next rest ih =>
    have isItem := each first List.mem_cons_self
    have others := fun text member => each text (List.mem_cons_of_mem _ member)
    -- The blank behind a comma belongs to the piece that follows.
    have spaced : ∀ c ∈ [' '], Text.isBlank c = true := List.forall_mem_singleton.mpr rfl
    have layout : lead ++ (", ".intercalate (first :: next :: rest)).toList =
        (lead ++ first.toList) ++ ',' :: ([' '] ++ (", ".intercalate (next :: rest)).toList) := by
      rw [String.intercalate_cons_cons, String.toList_append, String.toList_append]
      simp
    rw [layout, List.splitOn_append_cons_self_of_not_mem (isItem.comma_notMem_append blank),
      List.map_cons, isItem.trim_append blank, ih others [' '] spaced]

/-- **Items are read back** from the value in which commas stand between them. -/
theorem listItems_intercalate {texts : List String} (nonempty : texts ≠ [])
    (each : ∀ text ∈ texts, IsItem text) : listItems (", ".intercalate texts) = texts := by
  obtain ⟨first, rest, rfl⟩ := List.exists_cons_of_ne_nil nonempty
  have pieces := trim_splitOn_intercalate each [] (fun _ member => nomatch member)
  rw [List.nil_append] at pieces
  rw [listItems, pieces, List.filter_eq_self]
  simpa using fun text member => (each text member).nonempty

/-! ### Operands -/

section Operands

variable {d : Dialect}

/-- **An operand is a value**: a number, a truth value or a string. -/
theorem isValue_operand (item : String) : d.IsValue (d.operand item) := by
  rcases d.operand_cases item with ⟨number, same⟩ | ⟨word, same⟩ | same
  · rw [same]
    exact isValue_of_inNumeral (Numeral.of_isDecimal number).characters
  · rw [same]
    exact isValue_boolLiteral word
  · rw [same]
    exact isValue_stringLiteral _

/-- **A quoted text is written as a string**, whatever it holds. -/
theorem operand_quote (d : Dialect) (text : String) :
    d.operand (Text.Quoted.quote '\'' text) = d.stringLiteral text := by
  have noTrue := Literal.sameName_quote "true" (by decide) text
  have noFalse := Literal.sameName_quote "false" (by decide) text
  simp only [operand, Literal.isDecimal_quote, noTrue, noFalse, Bool.false_and, Bool.false_eq_true,
    if_false, Literal.unquote_quote]

theorem comma_mem_stringLiteral_iff {text : String} :
    ',' ∈ (d.stringLiteral text).toList ↔ ',' ∈ text.toList := by
  have ofChar (c : Char) : ',' ∈ d.stringChar c ↔ c = ',' := by
    unfold stringChar
    split
    · rename_i quote
      simp [quote]
    · split
      · rename_i backslash
        simp [backslash]
      · simp [eq_comm]
  simp [toList_stringLiteral, ofChar]

/-- An operand has a comma only where its item has one. -/
theorem comma_notMem_operand {item : String} (free : ',' ∉ item.toList) :
    ',' ∉ (d.operand item).toList := by
  rcases d.operand_cases item with ⟨-, same⟩ | ⟨word, same⟩ | same
  · rwa [same]
  · rw [same]
    cases d <;> cases word <;> decide
  · rw [same, comma_mem_stringLiteral_iff]
    exact fun comma => free (Literal.mem_of_mem_unquote comma)

theorem operand_ne_empty {item : String} (nonempty : item ≠ "") : d.operand item ≠ "" := by
  rcases d.operand_cases item with ⟨-, same⟩ | ⟨word, same⟩ | same
  · rwa [same]
  · rw [same]
    cases d <;> cases word <;> decide
  · rw [same]
    intro empty
    have chars := congrArg String.toList empty
    rw [toList_stringLiteral] at chars
    cases chars

end Operands

/-! ### Conditions -/

/-- What stands left of an operator. -/
def leftSide (d : Dialect) (isHaving : Bool) (c : Condition) : String :=
  if isHaving then d.aggregateText c.aggregate c.ref else d.columnRef c.ref

/-- The operands of the items of a value. -/
def operands (d : Dialect) (value : String) : List String :=
  (listItems value).map d.operand

/-- The value of quoted texts with commas between them. -/
def quotedItems (texts : List String) : String :=
  ", ".intercalate (texts.map (Text.Quoted.quote '\''))

section Conditions

variable {d : Dialect}

/-- IN and NOT IN are written with a tuple of operands. -/
theorem conditionText_of_isList {isHaving : Bool} {c : Condition}
    (isList : c.operator = .isIn ∨ c.operator = .notIn) :
    d.conditionText isHaving c =
      d.leftSide isHaving c ++ " " ++ c.operator.sql ++ " " ++ tupleText (d.operands c.value) := by
  have takesList := (Operator.takes_of_isList isList).1
  rw [conditionText, rightSide, if_pos takesList, leftSide, tupleText, operands]
  simp only [String.append_assoc]
  rfl

/-- Tuples of one text have the same values. -/
theorem tupleText_inj {values others : List String} (nonempty : values ≠ [])
    (otherNonempty : others ≠ []) (each : ∀ value ∈ values, d.IsValue value)
    (eachOther : ∀ value ∈ others, d.IsValue value) (same : tupleText values = tupleText others) :
    values = others := by
  have read := readTuple?_tupleText nonempty each
  rw [same, readTuple?_tupleText otherNonempty eachOther] at read
  exact (Option.some.inj read).symm

/-- A quoted text without commas is an item. -/
theorem isItem_quote {text : String} (free : ',' ∉ text.toList) :
    IsItem (Text.Quoted.quote '\'' text) := by
  have chars := Text.Quoted.toList_quote '\'' text
  refine ⟨Literal.quote_ne_empty text, fun comma => free ?_, Literal.trimmed_quote text⟩
  simpa [chars, Literal.mem_double_iff] using comma

theorem listItems_quotedItems_ne_nil {texts : List String} (nonempty : texts ≠ []) :
    listItems (quotedItems texts) ≠ [] := by
  obtain ⟨first, rest, rfl⟩ := List.exists_cons_of_ne_nil nonempty
  have quote : '\'' ∈ (quotedItems (first :: rest)).toList := by
    rw [quotedItems, List.map_cons, toList_intercalate_cons, Text.Quoted.toList_quote]
    exact List.mem_cons_self
  intro empty
  exact absurd (listItems_eq_nil_iff.mp empty '\'' quote) (by decide)

/-- Quoted texts without commas are read back, each as a string. -/
theorem operands_quotedItems (d : Dialect) {texts : List String} (nonempty : texts ≠ [])
    (free : ∀ text ∈ texts, ',' ∉ text.toList) :
    d.operands (quotedItems texts) = texts.map d.stringLiteral := by
  have isItem : ∀ item ∈ texts.map (Text.Quoted.quote '\''), IsItem item := by
    intro item member
    obtain ⟨text, isText, rfl⟩ := List.mem_map.mp member
    exact isItem_quote (free text isText)
  have items : listItems (quotedItems texts) = texts.map (Text.Quoted.quote '\'') :=
    listItems_intercalate (by simpa using nonempty) isItem
  rw [operands, items, List.map_map]
  simp only [Function.comp_def, operand_quote]

/-- **Quoted texts are written as strings**, each in its place, exactly when no text has a comma. -/
theorem conditionText_quotedItems_iff (d : Dialect) (isHaving : Bool) {texts : List String}
    (nonempty : texts ≠ []) {c : Condition} (isList : c.operator = .isIn ∨ c.operator = .notIn)
    (quoted : c.value = quotedItems texts) :
    d.conditionText isHaving c =
        d.leftSide isHaving c ++ " " ++ c.operator.sql ++ " " ++
          tupleText (texts.map d.stringLiteral) ↔
      ∀ text ∈ texts, ',' ∉ text.toList := by
  rw [conditionText_of_isList isList, quoted, String.append_right_inj]
  constructor
  · intro same text member comma
    have values : d.operands (quotedItems texts) = texts.map d.stringLiteral := by
      refine tupleText_inj (d := d) ?_ ?_ ?_ ?_ same
      · simpa [operands] using listItems_quotedItems_ne_nil nonempty
      · simpa using nonempty
      · simpa [operands] using fun item _ => isValue_operand item
      · simpa using fun text _ => isValue_stringLiteral text
    have isOperand : d.stringLiteral text ∈ d.operands (quotedItems texts) := by
      rw [values]
      exact List.mem_map_of_mem member
    obtain ⟨item, isItem, written⟩ := List.mem_map.mp isOperand
    refine comma_notMem_operand (d := d) (comma_notMem_of_mem_listItems isItem) ?_
    rw [written]
    exact comma_mem_stringLiteral_iff.mpr comma
  · intro free
    rw [operands_quotedItems d nonempty free]

end Conditions

/-! ### Quoted texts -/

/-- Remarks that are none of some quoted texts, which hold quotes, blanks, a number and nothing. -/
def otherRemarks : Condition :=
  { table := "orders", column := "remark", operator := .notIn,
    value := quotedItems ["it's", " 'so' \\", "007", "", "true"] }

theorem conditionText_otherRemarks :
    otherRemarks.value = "'it''s', ' ''so'' \\', '007', '', 'true'" ∧
      mysql.conditionText false otherRemarks =
        "orders.remark NOT IN ('it''s', ' ''so'' \\\\', '007', '', 'true')" := by
  have written := (conditionText_quotedItems_iff mysql false (c := otherRemarks)
    (List.cons_ne_nil "it's" [" 'so' \\", "007", "", "true"]) (.inr rfl) rfl).mpr (by decide)
  refine ⟨by decide, written.trans ?_⟩
  decide +kernel

/-- Guests by their names, of which one has a comma in it. -/
def guests : Condition :=
  { table := "guests", column := "name", operator := .isIn, value := quotedItems ["Doe, Jane", "Ann"] }

/-- A comma between quotes is taken for one between items: two names are written as three. -/
theorem conditionText_guests :
    guests.value = "'Doe, Jane', 'Ann'" ∧
      postgres.conditionText false guests = "guests.name IN ('''Doe', 'Jane''', 'Ann')" ∧
      postgres.conditionText false guests ≠ postgres.leftSide false guests ++ " " ++
        guests.operator.sql ++ " " ++ tupleText (["Doe, Jane", "Ann"].map postgres.stringLiteral) := by
  decide +kernel

end Dialect

end SchemaCompiler
