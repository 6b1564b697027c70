/-
**SQL text as an engine reads it.**

An engine reads a text character by character, outside or between quotes. The mark of names and that
of strings open quotes, and the same mark closes them. A mark that is written twice between quotes
closes them and opens them again at once, so that it belongs to what is quoted. In a MySQL string a
backslash takes its meaning from the character after it. PostgreSQL strings are read as the standard
says, where a backslash is a character like any other.

What is outside quotes is the bare text.

* `Dialect.after_append`, `Dialect.bare_append` — how parts are put together.
* `Dialect.closes_quoteIdentifier`, `Dialect.closes_stringLiteral` — quoted names and strings close
  their quotes, whatever is in them.
* `Dialect.mem_bareText_quoteIdentifier`, `Dialect.mem_bareText_stringLiteral` — only their marks are
  outside.
-/

import SchemaCompiler.Sql.Identifier
import SchemaCompiler.Sql.Value

namespace SchemaCompiler

/-! ### Reading -/

/-- Where the reader of a text stands: outside quotes, between two marks, or behind a backslash in a
string. -/
inductive Position where
  | outside
  | quoted (mark : Char)
  | escaped
  deriving DecidableEq, Repr

namespace Dialect

/-- Where the reader stands after one more character. -/
def advance (d : Dialect) : Position → Char → Position
  | .outside, c => if c = d.quoteMark ∨ c = '\'' then .quoted c else .outside
  | .quoted mark, c =>
    if c = mark then .outside
    else if c = '\\' ∧ mark = '\'' ∧ d = .mysql then .escaped
    else .quoted mark
  | .escaped, _ => .quoted '\''

/-- Where the reader stands after a text. -/
def after (d : Dialect) (position : Position) (text : List Char) : Position :=
  text.foldl d.advance position

/-- The part of a text that stands outside quotes, the marks included. -/
def bare (d : Dialect) : Position → List Char → List Char
  | _, [] => []
  | position, c :: rest =>
    let next := d.advance position c
    if position = .outside ∨ next = .outside then c :: d.bare next rest else d.bare next rest

/-- The bare text of a text that is read from its start. -/
def bareText (d : Dialect) (text : String) : List Char :=
  d.bare .outside text.toList

/-- Whether a text that is read from its start ends outside quotes. -/
def Closes (d : Dialect) (text : String) : Prop :=
  d.after .outside text.toList = .outside

instance (d : Dialect) (text : String) : Decidable (d.Closes text) :=
  inferInstanceAs (Decidable (_ = _))

/-! ### Parts of a text -/

/-- What holds of a separator and of parts, and of two texts together when it holds of both, holds of
the parts with the separator between them. -/
theorem holds_intercalate {motive : String → Prop} (empty : motive "")
    (append : ∀ front back, motive front → motive back → motive (front ++ back))
    {separator : String} {parts : List String} (between : motive separator)
    (each : ∀ part ∈ parts, motive part) : motive (separator.intercalate parts) := by
  induction parts with
  | nil => exact empty
  | cons part rest ih =>
    have first := each part List.mem_cons_self
    have others := ih fun other inRest => each other (List.mem_cons_of_mem _ inRest)
    cases rest with
    | nil => simpa using first
    | cons next rest =>
      rw [String.intercalate_cons_cons]
      exact append _ _ (append _ _ first between) others

section Parts

variable {d : Dialect} {position : Position}

@[simp] theorem after_nil : d.after position [] = position := rfl

@[simp] theorem after_cons (c : Char) (rest : List Char) :
    d.after position (c :: rest) = d.after (d.advance position c) rest := rfl

theorem after_append (front back : List Char) :
    d.after position (front ++ back) = d.after (d.after position front) back :=
  List.foldl_append

theorem bare_append (front back : List Char) :
    d.bare position (front ++ back) =
      d.bare position front ++ d.bare (d.after position front) back := by
  induction front generalizing position with
  | nil => rfl
  | cons c rest ih =>
    simp only [List.cons_append, bare, after_cons, ih]
    split <;> rfl

theorem Closes.append {front back : String} (first : d.Closes front) (second : d.Closes back) :
    d.Closes (front ++ back) := by
  unfold Closes at *
  rw [String.toList_append, after_append, first, second]

theorem bareText_append {front : String} (first : d.Closes front) (back : String) :
    d.bareText (front ++ back) = d.bareText front ++ d.bareText back := by
  unfold Closes at first
  simp only [bareText, String.toList_append, bare_append, first]

/-- A class that holds of none of some characters keeps them out. -/
theorem notMem_of_class {characters : List Char} (holds : Char → Bool)
    (avoids : characters.all (!holds ·) = true) {c : Char} (inClass : holds c = true) :
    c ∉ characters := by
  intro member
  have outside := List.all_eq_true.mp avoids c member
  rw [inClass] at outside
  cases outside

/-- The characters of a class without marks open no quotes. -/
theorem unmarked_of (holds : Char → Bool) (avoids : ['\'', '"', '\x60'].all (!holds ·) = true)
    {c : Char} (inClass : holds c = true) : c ≠ d.quoteMark ∧ c ≠ '\'' := by
  have noMark := notMem_of_class holds avoids inClass
  refine ⟨?_, ?_⟩
  · rintro rfl
    exact noMark (by cases d <;> decide)
  · rintro rfl
    exact noMark (by decide)

/-- A text without marks is outside quotes as a whole. -/
theorem after_of_unmarked {text : List Char} (unmarked : ∀ c ∈ text, c ≠ d.quoteMark ∧ c ≠ '\'') :
    d.after .outside text = .outside := by
  induction text with
  | nil => rfl
  | cons c rest ih =>
    have stays : d.advance .outside c = .outside := by
      simp [advance, unmarked c List.mem_cons_self]
    rw [after_cons, stays]
    exact ih fun other inRest => unmarked other (List.mem_cons_of_mem _ inRest)

theorem bare_of_unmarked {text : List Char} (unmarked : ∀ c ∈ text, c ≠ d.quoteMark ∧ c ≠ '\'') :
    d.bare .outside text = text := by
  induction text with
  | nil => rfl
  | cons c rest ih =>
    have stays : d.advance .outside c = .outside := by
      simp [advance, unmarked c List.mem_cons_self]
    rw [bare, if_pos (.inl rfl), stays]
    rw [ih fun other inRest => unmarked other (List.mem_cons_of_mem _ inRest)]

/-! ### Between quotes -/

/-- Characters that each leave the reader where it stands leave it there together. -/
theorem after_flatMap {written : Char → List Char}
    (stays : ∀ c, d.after position (written c) = position) (text : List Char) :
    d.after position (text.flatMap written) = position := by
  induction text with
  | nil => rfl
  | cons c rest ih => rw [List.flatMap_cons, after_append, stays, ih]

theorem mem_bare_flatMap {written : Char → List Char}
    (stays : ∀ c, d.after position (written c) = position) {text : List Char} {x : Char}
    (member : x ∈ d.bare position (text.flatMap written)) :
    ∃ c, x ∈ d.bare position (written c) := by
  induction text with
  | nil => cases member
  | cons c rest ih =>
    rw [List.flatMap_cons, bare_append, stays, List.mem_append] at member
    rcases member with here | later
    · exact ⟨c, here⟩
    · exact ih later

section Quoted

variable {mark : Char} {written : Char → List Char} {text : List Char}

/-- A text between two marks closes its quotes when its characters stay between them. -/
theorem after_quoted (opens : mark = d.quoteMark ∨ mark = '\'')
    (stays : ∀ c, d.after (.quoted mark) (written c) = .quoted mark) :
    d.after .outside (mark :: text.flatMap written ++ [mark]) = .outside := by
  rw [List.cons_append, after_cons, advance, if_pos opens, after_append, after_flatMap stays,
    after_cons, advance, if_pos rfl, after_nil]

/-- Only marks are outside a text between two marks. -/
theorem mem_bare_quoted (opens : mark = d.quoteMark ∨ mark = '\'')
    (stays : ∀ c, d.after (.quoted mark) (written c) = .quoted mark)
    (hidden : ∀ c, ∀ x ∈ d.bare (.quoted mark) (written c), x = mark) {x : Char}
    (member : x ∈ d.bare .outside (mark :: text.flatMap written ++ [mark])) : x = mark := by
  rw [List.cons_append, bare, if_pos (.inl rfl), advance, if_pos opens, bare_append,
    after_flatMap stays, List.mem_cons, List.mem_append] at member
  rcases member with first | inside | last
  · exact first
  · obtain ⟨c, here⟩ := mem_bare_flatMap stays inside
    exact hidden c x here
  · simpa [bare, advance] using last

end Quoted

end Parts

/-! ### Names and strings -/

/-- One character of a name between two marks. -/
def nameChar (d : Dialect) (c : Char) : List Char :=
  if c = d.quoteMark then [d.quoteMark, d.quoteMark] else [c]

theorem quoteMark_ne_apostrophe (d : Dialect) : d.quoteMark ≠ '\'' := by
  cases d <;> decide

theorem double_eq_flatMap (d : Dialect) (name : List Char) :
    Text.Quoted.double d.quoteMark name = name.flatMap d.nameChar := by
  induction name with
  | nil => rfl
  | cons c rest ih =>
    rw [Text.Quoted.double, List.flatMap_cons, nameChar, ih]
    split <;> rfl

theorem toList_quoteIdentifier (d : Dialect) (name : String) :
    (d.quoteIdentifier name).toList =
      d.quoteMark :: name.toList.flatMap d.nameChar ++ [d.quoteMark] := by
  rw [quoteIdentifier, Text.Quoted.quote, String.toList_ofList, double_eq_flatMap]

theorem toList_stringLiteral (d : Dialect) (text : String) :
    (d.stringLiteral text).toList = '\'' :: text.toList.flatMap d.stringChar ++ ['\''] := by
  simp [stringLiteral]

section Names

variable {d : Dialect}

theorem after_nameChar (c : Char) :
    d.after (.quoted d.quoteMark) (d.nameChar c) = .quoted d.quoteMark := by
  by_cases same : c = d.quoteMark
  · simp [nameChar, same, advance]
  · simp [nameChar, same, advance, d.quoteMark_ne_apostrophe]

theorem bare_nameChar {c x : Char} (member : x ∈ d.bare (.quoted d.quoteMark) (d.nameChar c)) :
    x = d.quoteMark := by
  by_cases same : c = d.quoteMark
  · simpa [nameChar, same, advance, bare] using member
  · simp [nameChar, same, advance, bare, d.quoteMark_ne_apostrophe] at member

theorem after_stringChar (c : Char) :
    d.after (.quoted '\'') (d.stringChar c) = .quoted '\'' := by
  by_cases quote : c = '\''
  · simp [stringChar, quote, advance]
  · by_cases escapes : c = '\\' ∧ d = .mysql
    · simp [stringChar, escapes, advance]
    · simp [stringChar, quote, escapes, advance]

theorem bare_stringChar {c x : Char} (member : x ∈ d.bare (.quoted '\'') (d.stringChar c)) :
    x = '\'' := by
  by_cases quote : c = '\''
  · simpa [stringChar, quote, advance, bare] using member
  · by_cases escapes : c = '\\' ∧ d = .mysql
    · simp [stringChar, escapes, advance, bare] at member
    · simp [stringChar, quote, escapes, advance, bare] at member

/-- **A quoted name closes its quotes.** -/
theorem closes_quoteIdentifier (name : String) : d.Closes (d.quoteIdentifier name) := by
  rw [Closes, toList_quoteIdentifier]
  exact after_quoted (.inl rfl) after_nameChar

theorem mem_bareText_quoteIdentifier {name : String} {x : Char}
    (member : x ∈ d.bareText (d.quoteIdentifier name)) : x = d.quoteMark := by
  rw [bareText, toList_quoteIdentifier] at member
  exact mem_bare_quoted (.inl rfl) after_nameChar (fun _ _ => bare_nameChar) member

/-- **A string closes its quotes.** -/
theorem closes_stringLiteral (text : String) : d.Closes (d.stringLiteral text) := by
  rw [Closes, toList_stringLiteral]
  exact after_quoted (.inr rfl) after_stringChar

theorem mem_bareText_stringLiteral {text : String} {x : Char}
    (member : x ∈ d.bareText (d.stringLiteral text)) : x = '\'' := by
  rw [bareText, toList_stringLiteral] at member
  exact mem_bare_quoted (.inr rfl) after_stringChar (fun _ _ => bare_stringChar) member

end Names

end Dialect

end SchemaCompiler
