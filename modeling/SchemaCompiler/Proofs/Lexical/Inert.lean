/-
**Parts of SQL statements.**

A text carries a number of statements when it closes its quotes and its bare text has that many
semicolons and opens no comment, not even together with what follows. A part that carries none is
inert: keywords, numbers, quoted names and strings are, whatever the names and strings hold, and so
is what is put together from inert parts.

* `Dialect.Carries.append`, `Dialect.Inert.intercalate` — parts are put together.
* `Dialect.inert_of_plain`, `Dialect.inert_quoteIdentifier`, `Dialect.inert_stringLiteral` — the
  parts that statements are made of.
* `Dialect.Carries.not_infix` — no comment is opened outside quotes.
-/

import Mathlib.Data.List.Infix
import SchemaCompiler.Proofs.Lexical.Scan

namespace SchemaCompiler

/-! ### Dashes that stand alone -/

/-- Every dash is followed by a character other than a dash. -/
def LoneDashes : List Char → Prop
  | [] => True
  | c :: rest => (c = '-' → ∃ next ∈ rest.head?, next ≠ '-') ∧ LoneDashes rest

namespace LoneDashes

theorem append {front back : List Char} (first : LoneDashes front) (second : LoneDashes back) :
    LoneDashes (front ++ back) := by
  induction front with
  | nil => exact second
  | cons c rest ih =>
    refine ⟨fun dash => ?_, ih first.2⟩
    obtain ⟨next, isNext, other⟩ := first.1 dash
    exact ⟨next, List.mem_head?_append_of_mem_head? isNext, other⟩

theorem of_notMem {text : List Char} (none : '-' ∉ text) : LoneDashes text := by
  induction text with
  | nil => trivial
  | cons c rest ih =>
    rw [List.mem_cons, not_or] at none
    exact ⟨fun dash => absurd dash.symm none.1, ih none.2⟩

theorem not_infix {text : List Char} (alone : LoneDashes text) : ¬ ['-', '-'] <:+: text := by
  induction text with
  | nil => simp
  | cons c rest ih =>
    rw [List.infix_cons_iff]
    rintro (atHead | inRest)
    · obtain ⟨rfl, next⟩ := List.cons_prefix_cons.mp atHead
      obtain ⟨other, isNext, differs⟩ := alone.1 rfl
      cases rest with
      | nil => cases isNext
      | cons head tail =>
        cases isNext
        exact differs (List.cons_prefix_cons.mp next).1.symm
    · exact ih alone.2 inRest

end LoneDashes

namespace Dialect

/-! ### Texts that carry statements -/

/-- What opens a comment. -/
def commentOpenings : List (List Char) := [['-', '-'], ['/', '*'], ['#']]

/-- A text that closes its quotes, ends `count` statements outside them and opens no comment there,
not even together with what follows. -/
structure Carries (d : Dialect) (count : Nat) (text : String) : Prop where
  closes : d.Closes text
  semicolons : (d.bareText text).count ';' = count
  harmless : ∀ c ∈ d.bareText text, c ≠ '#' ∧ c ≠ '/'
  dashes : LoneDashes (d.bareText text)

/-- A part that ends no statement. -/
def Inert (d : Dialect) (text : String) : Prop := d.Carries 0 text

section Carries

variable {d : Dialect}

theorem Carries.append {m n : Nat} {front back : String} (first : d.Carries m front)
    (second : d.Carries n back) : d.Carries (m + n) (front ++ back) where
  closes := first.closes.append second.closes
  semicolons := by
    rw [bareText_append first.closes, List.count_append, first.semicolons, second.semicolons]
  harmless := by
    intro c member
    rw [bareText_append first.closes, List.mem_append] at member
    exact member.elim (first.harmless c) (second.harmless c)
  dashes := by
    rw [bareText_append first.closes]
    exact first.dashes.append second.dashes

/-- No comment is opened outside quotes. -/
theorem Carries.not_infix {count : Nat} {text : String} (carries : d.Carries count text) :
    ∀ opening ∈ commentOpenings, ¬ opening <:+: d.bareText text := by
  intro opening isOpening inText
  simp only [commentOpenings, List.mem_cons, List.not_mem_nil, or_false] at isOpening
  rcases isOpening with rfl | rfl | rfl
  · exact carries.dashes.not_infix inText
  · exact (carries.harmless '/' (inText.subset List.mem_cons_self)).2 rfl
  · exact (carries.harmless '#' (inText.subset List.mem_cons_self)).1 rfl

/-! ### Putting inert parts together -/

namespace Inert

theorem append {front back : String} (first : d.Inert front) (second : d.Inert back) :
    d.Inert (front ++ back) :=
  Carries.append first second

theorem empty : d.Inert "" :=
  ⟨rfl, rfl, fun _ member => (List.not_mem_nil member).elim, trivial⟩

theorem join_map {α : Type} {items : List α} {text : α → String}
    (each : ∀ item ∈ items, d.Inert (text item)) : d.Inert (String.join (items.map text)) := by
  induction items with
  | nil => exact empty
  | cons item rest ih =>
    rw [List.map_cons, String.join_cons]
    exact (each item List.mem_cons_self).append
      (ih fun other inRest => each other (List.mem_cons_of_mem _ inRest))

theorem intercalate {separator : String} {parts : List String} (between : d.Inert separator)
    (each : ∀ part ∈ parts, d.Inert part) : d.Inert (separator.intercalate parts) :=
  holds_intercalate empty (fun _ _ => append) between each

theorem ite {condition : Prop} [Decidable condition] {first second : String}
    (firstInert : d.Inert first) (secondInert : d.Inert second) :
    d.Inert (if condition then first else second) := by
  split
  · exact firstInert
  · exact secondInert

end Inert

end Carries

/-! ### Parts outside quotes -/

/-- The characters that mean something to a reader: marks, and what ends a statement or opens a
comment. -/
def special : List Char := ['\'', '"', '\x60', ';', '#', '/', '-']

/-- Whether a character means nothing to a reader. -/
def isPlain (c : Char) : Bool := !special.contains c

section Plain

variable {d : Dialect} {text : String}

/-- A text without marks, semicolons and comments is inert. -/
theorem inert_of_unmarked (plain : ∀ c ∈ text.toList, c = '-' ∨ isPlain c = true)
    (dashes : LoneDashes text.toList) : d.Inert text := by
  have avoids (x : Char) (isSpecial : x ∈ special) (differs : x ≠ '-') : x ∉ text.toList := by
    intro member
    rcases plain x member with dash | isPlain
    · exact differs dash
    · simp [Dialect.isPlain, isSpecial] at isPlain
  have unmarked : ∀ c ∈ text.toList, c ≠ d.quoteMark ∧ c ≠ '\'' := fun c member =>
    unmarked_of (fun c => c == '-' || isPlain c) (by decide) (by simpa using plain c member)
  have bareEq : d.bareText text = text.toList := bare_of_unmarked unmarked
  refine ⟨after_of_unmarked unmarked, ?_, ?_, ?_⟩
  · rw [bareEq]
    exact List.count_eq_zero.mpr (avoids ';' (by decide) (by decide))
  · intro c member
    rw [bareEq] at member
    refine ⟨?_, ?_⟩
    · rintro rfl
      exact avoids '#' (by decide) (by decide) member
    · rintro rfl
      exact avoids '/' (by decide) (by decide) member
  · rw [bareEq]
    exact dashes

/-- **A plain text is inert**; keywords and separators are plain. -/
theorem inert_of_plain (plain : text.toList.all isPlain = true) : d.Inert text := by
  rw [List.all_eq_true] at plain
  refine inert_of_unmarked (fun c member => .inr (plain c member)) (.of_notMem fun dash => ?_)
  exact absurd (plain '-' dash) (by decide)

namespace Inert

variable {front inner back : String}

/-- A plain text can stand in front of an inert one. -/
theorem plain_append (plain : front.toList.all isPlain = true) (inert : d.Inert back) :
    d.Inert (front ++ back) :=
  (inert_of_plain plain).append inert

/-- A plain text can stand behind an inert one. -/
theorem append_plain (inert : d.Inert front) (plain : back.toList.all isPlain = true) :
    d.Inert (front ++ back) :=
  inert.append (inert_of_plain plain)

/-- The texts of items with a plain text between them. -/
theorem intercalate_map {α : Type} {items : List α} {text : α → String}
    (plain : front.toList.all isPlain = true) (each : ∀ item ∈ items, d.Inert (text item)) :
    d.Inert (front.intercalate (items.map text)) := by
  refine intercalate (inert_of_plain plain) fun part member => ?_
  obtain ⟨item, isItem, rfl⟩ := List.mem_map.mp member
  exact each item isItem

/-- An inert text can stand between plain ones. -/
theorem between (opening : front.toList.all isPlain = true) (inert : d.Inert inner)
    (closing : back.toList.all isPlain = true) : d.Inert (front ++ inner ++ back) :=
  (plain_append opening inert).append_plain closing

end Inert

/-- The characters of a class without special ones are plain. -/
theorem isPlain_of (holds : Char → Bool) (avoids : special.all (!holds ·) = true) {c : Char}
    (inClass : holds c = true) : isPlain c = true := by
  rw [isPlain, Bool.not_eq_true', ← Bool.not_eq_true, List.contains_iff_mem]
  exact notMem_of_class holds avoids inClass

theorem inert_toString_nat (n : Nat) : d.Inert (toString n) := by
  refine inert_of_plain (List.all_eq_true.mpr fun c member => ?_)
  have digits : (toString n).toList = Nat.toDigits 10 n := Nat.toList_repr
  rw [digits] at member
  have digit := Nat.isDigit_of_mem_toDigits (by decide) (by decide) member
  exact isPlain_of Char.isDigit (by decide) digit

end Plain

/-! ### Names and strings -/

section Names

variable {d : Dialect}

/-- A text that closes its quotes with marks alone outside them is inert. -/
theorem inert_of_mark {mark : Char} (isMark : mark ∉ [';', '#', '/', '-']) {text : String}
    (closes : d.Closes text) (marks : ∀ c ∈ d.bareText text, c = mark) : d.Inert text := by
  have avoids (x : Char) (isSpecial : x ∈ [';', '#', '/', '-']) : x ∉ d.bareText text :=
    fun member => isMark (marks x member ▸ isSpecial)
  refine ⟨closes, List.count_eq_zero.mpr (avoids ';' (by decide)), fun c member => ?_,
    .of_notMem (avoids '-' (by decide))⟩
  refine ⟨?_, ?_⟩
  · rintro rfl
    exact avoids '#' (by decide) member
  · rintro rfl
    exact avoids '/' (by decide) member

/-- **A quoted name is inert**, whatever it holds. -/
theorem inert_quoteIdentifier (name : String) : d.Inert (d.quoteIdentifier name) :=
  inert_of_mark (by cases d <;> decide) (closes_quoteIdentifier name)
    fun _ => mem_bareText_quoteIdentifier

/-- **A string is inert**, whatever it holds. -/
theorem inert_stringLiteral (text : String) : d.Inert (d.stringLiteral text) :=
  inert_of_mark (by decide) (closes_stringLiteral text) fun _ => mem_bareText_stringLiteral

theorem inert_boolLiteral (value : Bool) : d.Inert (d.boolLiteral value) := by
  cases d <;> cases value <;> exact inert_of_plain (by decide)

theorem inert_tableName (options : GenerateOptions) (name : String) :
    d.Inert (d.tableName options name) := by
  unfold tableName
  split
  · exact ((inert_quoteIdentifier _).append_plain (by decide)).append (inert_quoteIdentifier _)
  · exact inert_quoteIdentifier _

/-- A part of a dotted name is quoted or made of the characters of bare names. -/
theorem inert_escapePart (part : String) : d.Inert (d.escapePart part) := by
  unfold escapePart
  split
  · exact inert_quoteIdentifier part
  · rename_i bare
    refine inert_of_plain (List.all_eq_true.mpr fun c member => ?_)
    refine isPlain_of inBareName (by decide) ?_
    simp only [needsQuoting, Bool.or_eq_true, List.any_eq_true, not_or, not_exists, not_and] at bare
    simpa using bare.1.2 c member

theorem inert_escapeIdentifier (name : String) : d.Inert (d.escapeIdentifier name) :=
  .intercalate_map (by decide) fun _ _ => inert_escapePart _

end Names

/-! ### Statements -/

section Statements

variable {d : Dialect}

theorem closes_semicolon : d.Closes ";" := by
  cases d <;> decide

theorem bareText_semicolon : d.bareText ";" = [';'] := by
  cases d <;> decide

/-- An inert text with a semicolon after it is one statement. -/
theorem Inert.terminated {body : String} (inert : d.Inert body) : d.Carries 1 (body ++ ";") := by
  have semicolon : d.Carries 1 ";" := by
    refine ⟨closes_semicolon, ?_, ?_, ?_⟩
    · rw [bareText_semicolon]
      decide
    · rw [bareText_semicolon]
      simp
    · rw [bareText_semicolon]
      exact .of_notMem (by decide)
  have joined := Carries.append inert semicolon
  rwa [Nat.zero_add] at joined

/-- Statements with inert texts between them. -/
theorem Carries.intercalate {separator : String} {statements : List String}
    (between : d.Inert separator) (each : ∀ text ∈ statements, d.Carries 1 text) :
    d.Carries statements.length (separator.intercalate statements) := by
  induction statements with
  | nil => exact Inert.empty
  | cons text rest ih =>
    have first := each text List.mem_cons_self
    have others := ih fun other inRest => each other (List.mem_cons_of_mem _ inRest)
    cases rest with
    | nil => simpa using first
    | cons next rest =>
      rw [String.intercalate_cons_cons, List.length_cons, Nat.add_comm]
      exact (first.append between).append others

end Statements

end Dialect

end SchemaCompiler
