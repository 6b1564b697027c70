/-
**The grammars of numbers.**

What a number is, said by its parts and without a reader: a whole number is a sign, if any, and digits;
a decimal number has digits before a point or behind it, and perhaps an exponent. The readers of numbers
go through a text from its start and never step back. They lose nothing by it, since digits end where
another part of a number begins.

* `isInteger_iff_isWhole`, `isDecimal_iff_isNumber` — the readers accept exactly the grammars.
* `IsWhole.isNumber` — every whole number is a decimal number.
-/

import Mathlib.Data.List.TakeWhile
import SchemaCompiler.Literal

namespace SchemaCompiler.Literal

/-! ### Grammars -/

/-- Digits, perhaps none. -/
def AreDigits (text : List Char) : Prop :=
  ∀ c ∈ text, '0' ≤ c ∧ c ≤ '9'

/-- Nothing, or a sign. -/
def IsSign (text : List Char) : Prop :=
  text = [] ∨ text = ['+'] ∨ text = ['-']

/-- A whole number: a sign, if any, and digits. -/
def IsWhole (text : List Char) : Prop :=
  ∃ sign digits, text = sign ++ digits ∧ IsSign sign ∧ AreDigits digits ∧ digits ≠ []

/-- Nothing, or an exponent: its letter and a whole number. -/
def IsPower (text : List Char) : Prop :=
  text = [] ∨
    ∃ letter power, text = letter :: power ∧ (letter = 'e' ∨ letter = 'E') ∧ IsWhole power

/-- The parts of a decimal number: a sign, if any, the digits before the point, the point with the
digits behind it, if any, and an exponent, if any. There are digits before the point or behind it. -/
structure AreNumberParts (sign whole fraction power : List Char) : Prop where
  isSign : IsSign sign
  areDigits : AreDigits whole
  isFraction : fraction = [] ∧ whole ≠ [] ∨
    ∃ digits, fraction = '.' :: digits ∧ AreDigits digits ∧ (whole ≠ [] ∨ digits ≠ [])
  isPower : IsPower power

/-- A decimal number. -/
def IsNumber (text : List Char) : Prop :=
  ∃ sign whole fraction power, text = sign ++ (whole ++ (fraction ++ power)) ∧
    AreNumberParts sign whole fraction power

/-- Every whole number is a decimal number, without a point and without an exponent. -/
theorem IsWhole.isNumber {text : List Char} (isWhole : IsWhole text) : IsNumber text := by
  obtain ⟨sign, digits, rfl, isSign, areDigits, nonempty⟩ := isWhole
  refine ⟨sign, digits, [], [], by simp, ?_⟩
  exact ⟨isSign, areDigits, .inl ⟨rfl, nonempty⟩, .inl rfl⟩

/-! ### Digits -/

theorem isDigit_iff {c : Char} : c.isDigit = true ↔ '0' ≤ c ∧ c ≤ '9' := by
  simp [Char.isDigit, Char.le_def]

section Digits

variable {digits rest : List Char}

theorem startsWithDigit_append (areDigits : AreDigits digits) (nonempty : digits ≠ []) :
    startsWithDigit (digits ++ rest) = true := by
  cases digits with
  | nil => exact absurd rfl nonempty
  | cons c digits => exact isDigit_iff.mpr (areDigits c List.mem_cons_self)

/-- Digits end where the rest of a text starts with another character. -/
theorem dropDigits_append (areDigits : AreDigits digits) (ends : startsWithDigit rest = false) :
    dropDigits (digits ++ rest) = rest := by
  have dropped : dropDigits (digits ++ rest) = dropDigits rest :=
    List.dropWhile_append_of_pos fun c member => isDigit_iff.mpr (areDigits c member)
  rw [dropped]
  cases rest with
  | nil => rfl
  | cons c rest =>
    have noDigit : ¬ c.isDigit = true := by simpa [startsWithDigit] using ends
    exact List.dropWhile_cons_of_neg noDigit

/-- The digits at the start of a text, and what is left of it. -/
theorem exists_digits (text : List Char) :
    ∃ digits, text = digits ++ dropDigits text ∧ AreDigits digits ∧
      (startsWithDigit text = true → digits ≠ []) := by
  refine ⟨text.takeWhile Char.isDigit, List.takeWhile_append_dropWhile.symm, ?_, ?_⟩
  · exact fun c member => isDigit_iff.mp (List.mem_takeWhile_imp member)
  · intro starts
    cases text with
    | nil => cases starts
    | cons c rest =>
      have isDigit : c.isDigit = true := starts
      simp [isDigit]

end Digits

/-! ### Signs -/

/-- The sign at the start of a text, and what is left of it. -/
theorem exists_sign (text : List Char) : ∃ sign, text = sign ++ dropSign text ∧ IsSign sign := by
  unfold dropSign
  split
  · exact ⟨['+'], rfl, .inr (.inl rfl)⟩
  · exact ⟨['-'], rfl, .inr (.inr rfl)⟩
  · exact ⟨[], rfl, .inl rfl⟩

/-- A sign ends where the rest of a text does not start with another one. -/
theorem dropSign_append {sign rest : List Char} (isSign : IsSign sign)
    (ends : rest.head? ≠ some '+' ∧ rest.head? ≠ some '-') : dropSign (sign ++ rest) = rest := by
  rcases isSign with rfl | rfl | rfl
  · rw [List.nil_append]
    unfold dropSign
    split
    · exact absurd rfl ends.1
    · exact absurd rfl ends.2
    · rfl
  · rfl
  · rfl

/-- A text that starts with a digit starts with no sign. -/
theorem head?_ne_sign_of_startsWithDigit {text : List Char} (starts : startsWithDigit text = true) :
    text.head? ≠ some '+' ∧ text.head? ≠ some '-' := by
  cases text with
  | nil => cases starts
  | cons c rest =>
    have isDigit : c.isDigit = true := starts
    constructor
    all_goals
      rintro ⟨rfl⟩
      exact absurd isDigit (by decide)

/-! ### Whole numbers -/

theorem isDigits_iff {text : List Char} :
    isDigits text = true ↔ AreDigits text ∧ text ≠ [] := by
  rw [isDigits, Bool.and_eq_true, List.isEmpty_iff]
  constructor
  · rintro ⟨starts, nothingLeft⟩
    obtain ⟨digits, whole, areDigits, nonempty⟩ := exists_digits text
    rw [nothingLeft, List.append_nil] at whole
    subst whole
    exact ⟨areDigits, nonempty starts⟩
  · rintro ⟨areDigits, nonempty⟩
    have starts : startsWithDigit (text ++ []) = true := startsWithDigit_append areDigits nonempty
    have nothingLeft : dropDigits (text ++ []) = [] := dropDigits_append areDigits rfl
    rw [List.append_nil] at starts nothingLeft
    exact ⟨starts, nothingLeft⟩

theorem isSignedDigits_iff_isWhole {text : List Char} : isSignedDigits text = true ↔ IsWhole text := by
  rw [isSignedDigits]
  constructor
  · intro unsigned
    obtain ⟨sign, whole, isSign⟩ := exists_sign text
    exact ⟨sign, dropSign text, whole, isSign, isDigits_iff.mp unsigned⟩
  · rintro ⟨sign, digits, rfl, isSign, areDigits, nonempty⟩
    have starts : startsWithDigit (digits ++ []) = true := startsWithDigit_append areDigits nonempty
    rw [List.append_nil] at starts
    rw [dropSign_append isSign (head?_ne_sign_of_startsWithDigit starts)]
    exact isDigits_iff.mpr ⟨areDigits, nonempty⟩

/-- **The whole numbers** that are read are those of the grammar. -/
theorem isInteger_iff_isWhole {text : String} : isInteger text = true ↔ IsWhole text.toList :=
  isSignedDigits_iff_isWhole

/-! ### Decimal numbers -/

theorem isExponent_iff_isPower {text : List Char} : isExponent text = true ↔ IsPower text := by
  cases text with
  | nil => exact iff_of_true rfl (.inl rfl)
  | cons letter power =>
    simp only [isExponent, Bool.and_eq_true, Bool.or_eq_true, decide_eq_true_eq,
      isSignedDigits_iff_isWhole, IsPower, reduceCtorEq, false_or]
    constructor
    · rintro ⟨isLetter, whole⟩
      exact ⟨letter, power, rfl, isLetter, whole⟩
    · rintro ⟨_, _, ⟨rfl, rfl⟩, isLetter, whole⟩
      exact ⟨isLetter, whole⟩

/-- An exponent starts with a letter, and so with neither a digit nor a point. -/
theorem IsPower.start {power : List Char} (isPower : IsPower power) :
    startsWithDigit power = false ∧ power.head? ≠ some '.' := by
  rcases isPower with rfl | ⟨_, _, rfl, rfl | rfl, -⟩
  · exact ⟨rfl, by simp⟩
  · exact ⟨rfl, by simp⟩
  · exact ⟨rfl, by simp⟩

/-- What stands behind the digits before the point. -/
theorem isFraction_iff {text : List Char} :
    isFraction text = true ↔ ∃ fraction power, text = fraction ++ power ∧
      (fraction = [] ∨ ∃ digits, fraction = '.' :: digits ∧ AreDigits digits) ∧ IsPower power := by
  constructor
  · intro accepted
    unfold isFraction at accepted
    split at accepted
    · rename_i rest
      obtain ⟨digits, whole, areDigits, -⟩ := exists_digits rest
      refine ⟨'.' :: digits, dropDigits rest, ?_, .inr ⟨digits, rfl, areDigits⟩,
        isExponent_iff_isPower.mp accepted⟩
      rw [List.cons_append, ← whole]
    · exact ⟨[], text, rfl, .inl rfl, isExponent_iff_isPower.mp accepted⟩
  · rintro ⟨fraction, power, rfl, rfl | ⟨digits, rfl, areDigits⟩, isPower⟩
    · rw [List.nil_append]
      unfold isFraction
      split
      · exact absurd rfl isPower.start.2
      · exact isExponent_iff_isPower.mpr isPower
    · rw [List.cons_append, isFraction, dropDigits_append areDigits isPower.start.1]
      exact isExponent_iff_isPower.mpr isPower

/-- What stands behind the digits before the point starts with none. -/
theorem startsWithDigit_fraction {fraction power : List Char}
    (isFraction : fraction = [] ∨ ∃ digits, fraction = '.' :: digits ∧ AreDigits digits)
    (isPower : IsPower power) : startsWithDigit (fraction ++ power) = false := by
  rcases isFraction with rfl | ⟨digits, rfl, -⟩
  · exact isPower.start.1
  · rfl

/-- A number without its sign. -/
theorem isUnsigned_iff {text : List Char} :
    isUnsigned text = true ↔ ∃ whole fraction power, text = whole ++ (fraction ++ power) ∧
      AreNumberParts [] whole fraction power := by
  constructor
  · intro accepted
    unfold isUnsigned at accepted
    split at accepted
    · -- Without digits before the point there are some behind it.
      rename_i rest
      rw [Bool.and_eq_true] at accepted
      obtain ⟨digits, whole, areDigits, nonempty⟩ := exists_digits rest
      refine ⟨[], '.' :: digits, dropDigits rest, ?_, .inl rfl, ?_,
        .inr ⟨digits, rfl, areDigits, .inr (nonempty accepted.1)⟩,
        isExponent_iff_isPower.mp accepted.2⟩
      · rw [List.nil_append, List.cons_append, ← whole]
      · exact fun c member => (List.not_mem_nil member).elim
    · rw [Bool.and_eq_true, isFraction_iff] at accepted
      obtain ⟨starts, fraction, power, behind, isFraction, isPower⟩ := accepted
      obtain ⟨digits, whole, areDigits, nonempty⟩ := exists_digits text
      refine ⟨digits, fraction, power, by rw [← behind, ← whole], .inl rfl, areDigits, ?_, isPower⟩
      rcases isFraction with none | ⟨more, point, areMore⟩
      · exact .inl ⟨none, nonempty starts⟩
      · exact .inr ⟨more, point, areMore, .inl (nonempty starts)⟩
  · rintro ⟨whole, fraction, power, rfl, -, areDigits, isFraction, isPower⟩
    by_cases nonempty : whole = []
    · subst nonempty
      rcases isFraction with ⟨-, absurdity⟩ | ⟨digits, rfl, areMore, some⟩
      · exact absurd rfl absurdity
      · have more : digits ≠ [] := some.resolve_left fun differ => differ rfl
        rw [List.nil_append, List.cons_append, isUnsigned,
          startsWithDigit_append areMore more, dropDigits_append areMore isPower.start.1,
          Bool.true_and]
        exact isExponent_iff_isPower.mpr isPower
    · have behind : fraction = [] ∨ ∃ digits, fraction = '.' :: digits ∧ AreDigits digits :=
        isFraction.imp And.left fun ⟨digits, point, areMore, _⟩ => ⟨digits, point, areMore⟩
      have starts : startsWithDigit (whole ++ (fraction ++ power)) = true :=
        startsWithDigit_append areDigits nonempty
      unfold isUnsigned
      split
      · rename_i same
        rw [same] at starts
        exact absurd (show '.'.isDigit = true from starts) (by decide)
      · rw [starts, Bool.true_and,
          dropDigits_append areDigits (startsWithDigit_fraction behind isPower)]
        exact isFraction_iff.mpr ⟨fraction, power, rfl, behind, isPower⟩

/-- A number without its sign starts with a digit or the point. -/
theorem head?_ne_sign_of_isUnsigned {text : List Char} (accepted : isUnsigned text = true) :
    text.head? ≠ some '+' ∧ text.head? ≠ some '-' := by
  unfold isUnsigned at accepted
  split at accepted
  · exact ⟨by simp, by simp⟩
  · rw [Bool.and_eq_true] at accepted
    exact head?_ne_sign_of_startsWithDigit accepted.1

/-- **The decimal numbers** that are read are those of the grammar. -/
theorem isDecimal_iff_isNumber {text : String} : isDecimal text = true ↔ IsNumber text.toList := by
  rw [isDecimal]
  constructor
  · intro unsigned
    obtain ⟨sign, signed, isSign⟩ := exists_sign text.toList
    obtain ⟨whole, fraction, power, parted, parts⟩ := isUnsigned_iff.mp unsigned
    exact ⟨sign, whole, fraction, power, by rw [← parted, ← signed], { parts with isSign := isSign }⟩
  · rintro ⟨sign, whole, fraction, power, parted, parts⟩
    have unsigned : isUnsigned (whole ++ (fraction ++ power)) = true :=
      isUnsigned_iff.mpr ⟨whole, fraction, power, rfl, { parts with isSign := .inl rfl }⟩
    rw [parted, dropSign_append parts.isSign (head?_ne_sign_of_isUnsigned unsigned)]
    exact unsigned

/-- A text that is read as a whole number is read as a decimal number. -/
theorem isDecimal_of_isInteger {text : String} (isInteger : isInteger text = true) :
    isDecimal text = true :=
  isDecimal_iff_isNumber.mpr (isInteger_iff_isWhole.mp isInteger).isNumber

end SchemaCompiler.Literal
