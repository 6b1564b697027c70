/-
**The characters of numbers.**

A number is written with digits, a point, the letter of an exponent and signs, and what users write
as a number has a minus sign only before a digit or a point. So numbers are inert.

* `Numeral.of_isDecimal`, `inNumeral_of_mem_text` — the numbers that users write, and those of rows.
* `Dialect.textLiteral_cases` — a text that a user entered is written as a string, a truth value or a
  number.
-/

import SchemaCompiler.Proofs.Lexical.Inert

namespace SchemaCompiler

/-- The characters of numbers. -/
def inNumeral (c : Char) : Bool :=
  c.isDigit || ['.', 'e', 'E', '+', '-'].contains c

/-- A text of the characters of numbers in which dashes stand alone. -/
structure Numeral (text : List Char) : Prop where
  characters : ∀ c ∈ text, inNumeral c = true
  dashes : LoneDashes text

namespace Numeral

/-! ### Numbers that users write -/

section Decimal

open Literal

theorem nil : Numeral [] :=
  ⟨fun _ member => (List.not_mem_nil member).elim, trivial⟩

theorem cons {c : Char} {rest : List Char} (inClass : inNumeral c = true) (noDash : c ≠ '-')
    (numeral : Numeral rest) : Numeral (c :: rest) where
  characters := by
    intro other member
    rcases List.mem_cons.mp member with rfl | inRest
    · exact inClass
    · exact numeral.characters other inRest
  dashes := ⟨fun dash => absurd dash noDash, numeral.dashes⟩

/-- A minus sign can stand before a number. -/
theorem negative {c : Char} {rest : List Char} (noDash : c ≠ '-') (numeral : Numeral (c :: rest)) :
    Numeral ('-' :: c :: rest) where
  characters := by
    intro other member
    rcases List.mem_cons.mp member with rfl | inRest
    · decide
    · exact numeral.characters other inRest
  dashes := ⟨fun _ => ⟨c, rfl, noDash⟩, numeral.dashes⟩

theorem of_digit {c : Char} {rest : List Char} (digit : c.isDigit = true)
    (numeral : Numeral rest) : Numeral (c :: rest) := by
  refine cons (by simp [inNumeral, digit]) ?_ numeral
  rintro rfl
  exact absurd digit (by decide)

/-- Digits can stand before a number. -/
theorem of_dropDigits {text : List Char} (numeral : Numeral (dropDigits text)) : Numeral text := by
  induction text with
  | nil => exact numeral
  | cons c rest ih =>
    by_cases digit : c.isDigit = true
    · refine of_digit digit (ih ?_)
      simpa [dropDigits, digit] using numeral
    · simpa [dropDigits, digit] using numeral

/-- A sign can stand before a text that starts as a number does. -/
theorem of_dropSign {text : List Char} (numeral : Numeral (dropSign text))
    (starts : ∃ c rest, dropSign text = c :: rest ∧ c ≠ '-') : Numeral text := by
  obtain ⟨c, rest, unsigned, noDash⟩ := starts
  unfold dropSign at numeral unsigned
  split at numeral
  · exact cons (by decide) (by decide) numeral
  · simp only at unsigned
    subst unsigned
    exact negative noDash numeral
  · exact numeral

theorem exists_cons_of_startsWithDigit {text : List Char} (starts : startsWithDigit text = true) :
    ∃ c rest, text = c :: rest ∧ c ≠ '-' := by
  cases text with
  | nil => cases starts
  | cons c rest =>
    refine ⟨c, rest, rfl, ?_⟩
    rintro rfl
    exact absurd (show '-'.isDigit = true from starts) (by decide)

theorem of_isSignedDigits {text : List Char} (signed : isSignedDigits text = true) :
    Numeral text := by
  rw [isSignedDigits, isDigits, Bool.and_eq_true, List.isEmpty_iff] at signed
  refine of_dropSign (of_dropDigits ?_) (exists_cons_of_startsWithDigit signed.1)
  rw [signed.2]
  exact nil

theorem of_isExponent {text : List Char} (exponent : isExponent text = true) : Numeral text := by
  cases text with
  | nil => exact nil
  | cons c rest =>
    simp only [isExponent, Bool.and_eq_true, Bool.or_eq_true, decide_eq_true_eq] at exponent
    obtain ⟨rfl | rfl, signed⟩ := exponent
    · exact cons (by decide) (by decide) (of_isSignedDigits signed)
    · exact cons (by decide) (by decide) (of_isSignedDigits signed)

theorem of_isFraction {text : List Char} (fraction : isFraction text = true) : Numeral text := by
  unfold isFraction at fraction
  split at fraction
  · exact cons (by decide) (by decide) (of_dropDigits (of_isExponent fraction))
  · exact of_isExponent fraction

/-- A number without a sign starts with a digit or a point. -/
theorem of_isUnsigned {text : List Char} (unsigned : isUnsigned text = true) :
    Numeral text ∧ ∃ c rest, text = c :: rest ∧ c ≠ '-' := by
  unfold isUnsigned at unsigned
  split at unsigned
  · rw [Bool.and_eq_true] at unsigned
    refine ⟨cons (by decide) (by decide) (of_dropDigits (of_isExponent unsigned.2)), ?_⟩
    exact ⟨_, _, rfl, by decide⟩
  · rw [Bool.and_eq_true] at unsigned
    exact ⟨of_dropDigits (of_isFraction unsigned.2), exists_cons_of_startsWithDigit unsigned.1⟩

/-- **The numbers that users write** are numerals. -/
theorem of_isDecimal {text : String} (decimal : isDecimal text = true) : Numeral text.toList := by
  obtain ⟨numeral, starts⟩ := of_isUnsigned decimal
  exact of_dropSign numeral starts

end Decimal

end Numeral

/-! ### Numbers of rows -/

section Json

open Json.Number

theorem inNumeral_of_isDigit {c : Char} (digit : c.isDigit = true) : inNumeral c = true := by
  rw [inNumeral, digit, Bool.true_or]

theorem inNumeral_of_mem_toDigits {n : Nat} {c : Char} (member : c ∈ Nat.toDigits 10 n) :
    inNumeral c = true :=
  inNumeral_of_isDigit (Nat.isDigit_of_mem_toDigits (by decide) (by decide) member)

theorem inNumeral_of_mem_repr {n : Nat} {c : Char} (member : c ∈ n.repr.toList) :
    inNumeral c = true := by
  rw [Nat.toList_repr] at member
  exact inNumeral_of_mem_toDigits member

theorem inNumeral_of_mem_int {value : Int} {c : Char} (member : c ∈ (toString value).toList) :
    inNumeral c = true := by
  cases value with
  | ofNat n => exact inNumeral_of_mem_repr member
  | negSucc n =>
    have signed : (toString (Int.negSucc n)).toList = '-' :: (n + 1).repr.toList := by
      show ("-" ++ (n + 1).repr).toList = _
      rw [String.toList_append]
      rfl
    rw [signed, List.mem_cons] at member
    rcases member with rfl | inDigits
    · decide
    · exact inNumeral_of_mem_repr inDigits

section Layout

variable {digits : List Char}

theorem inNumeral_of_mem_positional (numerals : ∀ c ∈ digits, inNumeral c = true) {first : Int}
    {c : Char} (member : c ∈ positional digits first) : inNumeral c = true := by
  have zeros {n : Nat} (isZero : c ∈ List.replicate n '0') : inNumeral c = true := by
    rw [List.eq_of_mem_replicate isZero]
    decide
  unfold positional at member
  split at member
  · simp only [List.mem_append] at member
    rcases member with (leading | isZero) | inDigits
    · exact List.all_eq_true.mp (show "0.".toList.all inNumeral = true by decide) c leading
    · exact zeros isZero
    · exact numerals c inDigits
  · dsimp only at member
    split at member
    · simp only [List.mem_append] at member
      rcases member with (inDigits | isZero) | trailing
      · exact numerals c inDigits
      · exact zeros isZero
      · exact List.all_eq_true.mp (show ".0".toList.all inNumeral = true by decide) c trailing
    · rw [List.mem_append, List.mem_cons] at member
      rcases member with whole | rfl | fraction
      · exact numerals c (List.mem_of_mem_take whole)
      · decide
      · exact numerals c (List.mem_of_mem_drop fraction)

theorem inNumeral_of_mem_scientific (numerals : ∀ c ∈ digits, inNumeral c = true) {first : Int}
    {c : Char} (member : c ∈ scientific digits first) : inNumeral c = true := by
  unfold scientific at member
  simp only [List.mem_append, List.mem_cons] at member
  rcases member with mantissa | rfl | sign | power
  · cases digits with
    | nil => cases mantissa
    | cons digit rest =>
      cases rest with
      | nil => exact numerals c mantissa
      | cons next rest =>
        simp only [List.mem_cons] at mantissa
        rcases mantissa with rfl | rfl | inRest
        · exact numerals _ List.mem_cons_self
        · decide
        · exact numerals c (List.mem_cons_of_mem _ (List.mem_cons.mpr inRest))
  · decide
  · rw [sign]
    split <;> decide
  · exact inNumeral_of_mem_toDigits power

end Layout

theorem inNumeral_of_mem_floatText {x : Binary64} {c : Char}
    (member : c ∈ (floatText x).toList) : inNumeral c = true := by
  obtain ⟨magnitude, layout, numerals⟩ : ∃ magnitude,
      floatText x = String.ofList (if x.negative then '-' :: magnitude else magnitude) ∧
        ∀ c ∈ magnitude, inNumeral c = true := by
    refine ⟨_, rfl, ?_⟩
    split
    · exact List.all_eq_true.mp (by decide)
    · dsimp only
      split
      · exact fun c => inNumeral_of_mem_positional fun _ => inNumeral_of_mem_toDigits
      · exact fun c => inNumeral_of_mem_scientific fun _ => inNumeral_of_mem_toDigits
  rw [layout, String.toList_ofList] at member
  split at member
  · rcases List.mem_cons.mp member with rfl | inMagnitude
    · decide
    · exact numerals c inMagnitude
  · exact numerals c member

/-- **The numbers of rows** are made of the characters of numbers. -/
theorem inNumeral_of_mem_text {value : Json.Number} {c : Char} (member : c ∈ value.text.toList) :
    inNumeral c = true := by
  cases value with
  | integer value => exact inNumeral_of_mem_int member
  | float value => exact inNumeral_of_mem_floatText member

end Json

/-! ### Values -/

namespace Dialect

variable {d : Dialect}

/-- **A number is inert.** -/
theorem inert_of_numeral {text : String} (numeral : Numeral text.toList) : d.Inert text := by
  refine inert_of_unmarked (fun c member => ?_) numeral.dashes
  have inClass := numeral.characters c member
  by_cases dash : c = '-'
  · exact .inl dash
  · right
    refine isPlain_of (fun c => inNumeral c && c != '-') (by decide) ?_
    rw [inClass, Bool.true_and, bne_iff_ne]
    exact dash

/-- **A text that a user entered** is written as a string, a truth value or a number. -/
theorem textLiteral_cases (d : Dialect) (text : String) (type? : Option DataType) :
    (∃ string, d.textLiteral text type? = d.stringLiteral string) ∨
      (∃ value, d.textLiteral text type? = d.boolLiteral value) ∨
        Numeral (d.textLiteral text type?).toList := by
  unfold textLiteral
  split
  · split
    · rename_i decimal
      exact .inr (.inr (Numeral.of_isDecimal decimal))
    · exact .inl ⟨text, rfl⟩
  · split
    · exact .inr (.inl ⟨_, rfl⟩)
    · exact .inl ⟨text, rfl⟩
  · exact .inl ⟨text, rfl⟩

theorem inert_textLiteral (text : String) (type? : Option DataType) :
    d.Inert (d.textLiteral text type?) := by
  rcases d.textLiteral_cases text type? with ⟨string, same⟩ | ⟨value, same⟩ | numeral
  · rw [same]
    exact inert_stringLiteral string
  · rw [same]
    exact inert_boolLiteral value
  · exact inert_of_numeral numeral

end Dialect

end SchemaCompiler
