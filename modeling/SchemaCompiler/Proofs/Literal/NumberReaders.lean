/-
**Readers of numbers.**

A reader takes a part of a text from its start. Readers of characters and of digits are put together to
readers of numbers: one behind the other, one that may be left out, one or else another. Digits are read as
far as they go, and a choice that was made stays. Nothing is lost by it: the texts that are read as a whole
are those of the grammars.

A number is padded when its digits before the point start with a zero that another digit follows.

* `isInteger_iff_readsAll`, `isDecimal_iff_readsAll` — numbers are what the readers take as a whole.
* `hasLeadingZero_iff_of_parts` — when a number is padded.
* `numbers_follow_grammars` — readers, grammars and padding.
-/

import SchemaCompiler.Proofs.Lexical.Insert
import SchemaCompiler.Proofs.Literal.Numbers
import SchemaCompiler.Proofs.Validation.Trimming

namespace SchemaCompiler.Literal

/-! ### Readers -/

/-- A reader leaves what stands behind its part of a text, or fails. -/
structure Reader where
  read : List Char → Option (List Char)

namespace Reader

/-- One of some characters. -/
def oneOf (characters : List Char) : Reader where
  read
    | c :: rest => if c ∈ characters then some rest else none
    | [] => none

/-- Digits, at least one and as many as there are. -/
def digits : Reader where
  read text := if startsWithDigit text then some (dropDigits text) else none

/-- One part, and another behind it. -/
def andThen (first second : Reader) : Reader where
  read text := (first.read text).bind second.read

/-- A part, or nothing where there is no such part. -/
def optional (part : Reader) : Reader where
  read text := some ((part.read text).getD text)

/-- The first part, or the second one where there is no first. -/
def orElse (first second : Reader) : Reader where
  read text := (first.read text).or (second.read text)

/-- Nothing is left of a text. -/
def ReadsAll (reader : Reader) (text : List Char) : Prop :=
  reader.read text = some []

/-- A sign, if any. -/
def sign : Reader := optional (oneOf ['+', '-'])

/-- A whole number. -/
def integer : Reader := sign.andThen digits

/-- An exponent. -/
def exponent : Reader := (oneOf ['e', 'E']).andThen integer

/-- A point, and digits behind it, if any. -/
def fraction : Reader := (oneOf ['.']).andThen (optional digits)

/-- Digits with a fraction, if any; or a point with digits. -/
def mantissa : Reader :=
  (digits.andThen (optional fraction)).orElse ((oneOf ['.']).andThen digits)

/-- A decimal number. -/
def decimal : Reader := sign.andThen (mantissa.andThen (optional exponent))

section Readers

variable {first second part : Reader} {characters text rest : List Char} {c : Char}

/-- A text that has another form than one that starts with a character. -/
theorem head?_ne_some (other : ∀ rest, text = c :: rest → False) : text.head? ≠ some c := by
  intro starts
  obtain ⟨rest, same⟩ := List.head?_eq_some_iff.mp starts
  exact other rest same

theorem read_oneOf_cons : (oneOf characters).read (c :: rest) =
    if c ∈ characters then some rest else none := rfl

theorem read_oneOf_eq_none (absent : ∀ c ∈ characters, text.head? ≠ some c) :
    (oneOf characters).read text = none := by
  cases text with
  | nil => rfl
  | cons c rest => exact if_neg fun member => absent c member rfl

theorem read_andThen : (first.andThen second).read text = (first.read text).bind second.read := rfl

theorem read_optional : (optional part).read text = some ((part.read text).getD text) := rfl

theorem read_digits_of_starts (starts : startsWithDigit text = true) :
    digits.read text = some (dropDigits text) :=
  if_pos starts

theorem read_digits_eq_none (noDigit : startsWithDigit text = false) : digits.read text = none :=
  if_neg (by simp [noDigit])

theorem andThen_readsAll_iff (leaves : first.read text = some rest) :
    (first.andThen second).ReadsAll text ↔ second.ReadsAll rest := by
  rw [ReadsAll, read_andThen, leaves, Option.bind_some, ReadsAll]

theorem not_andThen_readsAll (fails : first.read text = none) :
    ¬ (first.andThen second).ReadsAll text := by
  rw [ReadsAll, read_andThen, fails, Option.bind_none]
  exact Option.some_ne_none [] ∘ Eq.symm

/-! ### Whole numbers -/

theorem read_sign : sign.read text = some (dropSign text) := by
  rw [sign, read_optional]
  unfold dropSign
  split
  · rfl
  · rfl
  · rename_i noPlus noMinus
    have absent : ∀ c ∈ ['+', '-'], text.head? ≠ some c := by
      simpa using ⟨head?_ne_some noPlus, head?_ne_some noMinus⟩
    rw [read_oneOf_eq_none absent, Option.getD_none]

theorem digits_readsAll_iff : digits.ReadsAll text ↔ isDigits text = true := by
  simp [ReadsAll, digits, isDigits]

theorem integer_readsAll_iff : integer.ReadsAll text ↔ isSignedDigits text = true := by
  rw [integer, andThen_readsAll_iff read_sign, digits_readsAll_iff, isSignedDigits]

/-! ### Decimal numbers -/

/-- Where there are no digits none are left out. -/
theorem read_optional_digits : (optional digits).read text = some (dropDigits text) := by
  rw [read_optional]
  cases starts : startsWithDigit text with
  | true => rw [read_digits_of_starts starts, Option.getD_some]
  | false =>
    -- As digits in front of the text there are none.
    have dropped : dropDigits ([] ++ text) = text := dropDigits_append (by simp [AreDigits]) starts
    rw [List.nil_append] at dropped
    rw [read_digits_eq_none starts, Option.getD_none, dropped]

/-- An exponent that cannot be read is left, and then the text is not read as a whole. -/
theorem optional_exponent_readsAll_iff :
    (optional exponent).ReadsAll text ↔ isExponent text = true := by
  cases text with
  | nil => exact iff_of_true rfl rfl
  | cons c rest =>
    have whole : (optional exponent).ReadsAll (c :: rest) ↔ exponent.ReadsAll (c :: rest) := by
      rw [ReadsAll, ReadsAll, read_optional]
      cases exponent.read (c :: rest) <;> simp
    rw [whole, exponent, isExponent, ← Bool.decide_or, Bool.and_eq_true, decide_eq_true_eq,
      ← integer_readsAll_iff]
    by_cases isLetter : c = 'e' ∨ c = 'E'
    · have leaves : (oneOf ['e', 'E']).read (c :: rest) = some rest := by
        rw [read_oneOf_cons, if_pos (by simpa using isLetter)]
      rw [andThen_readsAll_iff leaves, and_iff_right isLetter]
    · have fails : (oneOf ['e', 'E']).read (c :: rest) = none := by
        rw [read_oneOf_cons, if_neg (by simpa using isLetter)]
      exact iff_of_false (not_andThen_readsAll fails) fun both => isLetter both.1

theorem read_fraction_point : fraction.read ('.' :: rest) = some (dropDigits rest) := by
  rw [fraction, read_andThen, read_oneOf_cons, if_pos (List.mem_singleton.mpr rfl), Option.bind_some,
    read_optional_digits]

theorem read_fraction_of_ne (noPoint : text.head? ≠ some '.') : fraction.read text = none := by
  rw [fraction, read_andThen, read_oneOf_eq_none (by simpa using noPoint), Option.bind_none]

/-- What stands behind the digits before the point. -/
theorem optional_fraction_readsAll_iff :
    ((optional fraction).andThen (optional exponent)).ReadsAll text ↔ isFraction text = true := by
  unfold isFraction
  split
  · rename_i rest
    have leaves : (optional fraction).read ('.' :: rest) = some (dropDigits rest) := by
      rw [read_optional, read_fraction_point, Option.getD_some]
    rw [andThen_readsAll_iff leaves, optional_exponent_readsAll_iff]
  · rename_i noPoint
    have absent := head?_ne_some noPoint
    have leaves : (optional fraction).read text = some text := by
      rw [read_optional, read_fraction_of_ne absent, Option.getD_none]
    rw [andThen_readsAll_iff leaves, optional_exponent_readsAll_iff]

/-- Where a text starts with a point, there are no digits before it and the second choice is taken. -/
theorem read_mantissa_point : mantissa.read ('.' :: rest) = digits.read rest := rfl

/-- Where a text does not start with a point, there is no second choice. -/
theorem read_mantissa_of_ne (noPoint : text.head? ≠ some '.') :
    mantissa.read text = (digits.andThen (optional fraction)).read text := by
  have noChoice : ((oneOf ['.']).andThen digits).read text = none := by
    rw [read_andThen, read_oneOf_eq_none (by simpa using noPoint), Option.bind_none]
  show Option.or _ (((oneOf ['.']).andThen digits).read text) = _
  rw [noChoice, Option.or_none]

/-- A number without its sign. -/
theorem mantissa_readsAll_iff :
    (mantissa.andThen (optional exponent)).ReadsAll text ↔ isUnsigned text = true := by
  unfold isUnsigned
  split
  · rename_i rest
    cases starts : startsWithDigit rest with
    | true =>
      have leaves : mantissa.read ('.' :: rest) = some (dropDigits rest) := by
        rw [read_mantissa_point, read_digits_of_starts starts]
      rw [andThen_readsAll_iff leaves, optional_exponent_readsAll_iff, Bool.true_and]
    | false =>
      have fails : mantissa.read ('.' :: rest) = none := by
        rw [read_mantissa_point, read_digits_eq_none starts]
      exact iff_of_false (not_andThen_readsAll fails) (by simp)
  · rename_i noPoint
    have absent := head?_ne_some noPoint
    cases starts : startsWithDigit text with
    | true =>
      have leaves : mantissa.read text = (optional fraction).read (dropDigits text) := by
        rw [read_mantissa_of_ne absent, read_andThen, read_digits_of_starts starts, Option.bind_some]
      rw [ReadsAll, read_andThen, leaves, ← read_andThen, ← ReadsAll, optional_fraction_readsAll_iff,
        Bool.true_and]
    | false =>
      have fails : mantissa.read text = none := by
        rw [read_mantissa_of_ne absent, read_andThen, read_digits_eq_none starts, Option.bind_none]
      exact iff_of_false (not_andThen_readsAll fails) (by simp)

theorem decimal_readsAll_iff :
    decimal.ReadsAll text ↔ isUnsigned (dropSign text) = true := by
  rw [decimal, andThen_readsAll_iff read_sign, mantissa_readsAll_iff]

end Readers

end Reader

/-- **Whole numbers** are the texts that are read as a whole. -/
theorem isInteger_iff_readsAll {text : String} :
    isInteger text = true ↔ Reader.integer.ReadsAll text.toList :=
  Reader.integer_readsAll_iff.symm

/-- **Decimal numbers** are the texts that are read as a whole. -/
theorem isDecimal_iff_readsAll {text : String} :
    isDecimal text = true ↔ Reader.decimal.ReadsAll text.toList :=
  Reader.decimal_readsAll_iff.symm

/-! ### Padded numbers -/

/-- A number has no blanks at its ends. -/
theorem trim_eq_self_of_isDecimal {text : String} (isNumber : isDecimal text = true) :
    Text.trim text = text :=
  trim_eq_self_of_unblank fun c member =>
    isBlank_eq_false_of_inUnquoted
      (inUnquoted_of_inNumeral ((Numeral.of_isDecimal isNumber).characters c member))

/-- A sign ends where the rest of a text does not start with another one. -/
theorem dropWhile_sign {sign rest : List Char} (isSign : IsSign sign)
    (ends : rest.head? ≠ some '+' ∧ rest.head? ≠ some '-') :
    ((sign ++ rest).dropWhile fun c => c = '+' || c = '-') = rest := by
  have stays : (rest.dropWhile fun c => c = '+' || c = '-') = rest := by
    cases rest with
    | nil => rfl
    | cons c rest => exact List.dropWhile_cons_of_neg (by simpa using ends)
  rcases isSign with rfl | rfl | rfl <;> simpa using stays

/-- The digits before the point of a number that is not padded: none, a zero alone, or digits that start
with another one. -/
def IsUnpadded (whole : List Char) : Prop :=
  whole = [] ∨ whole = ['0'] ∨ ∃ first rest, whole = first :: rest ∧ first ≠ '0'

section Parts

variable {text : String} {sign whole fraction power : List Char}

/-- The parts of a number behind its sign. -/
theorem AreNumberParts.isUnsigned (parts : AreNumberParts sign whole fraction power) :
    isUnsigned (whole ++ (fraction ++ power)) = true :=
  isUnsigned_iff.mpr ⟨whole, fraction, power, rfl, { parts with isSign := .inl rfl }⟩

/-- What stands behind the digits before the point starts with no digit. -/
theorem AreNumberParts.startsWithDigit_fraction (parts : AreNumberParts sign whole fraction power) :
    startsWithDigit (fraction ++ power) = false :=
  Literal.startsWithDigit_fraction
    (parts.isFraction.imp And.left fun ⟨digits, point, areDigits, _⟩ => ⟨digits, point, areDigits⟩)
    parts.isPower

/-- **A number is padded** when the digits before its point start with a zero and go on. -/
theorem hasLeadingZero_iff_of_parts (parted : text.toList = sign ++ (whole ++ (fraction ++ power)))
    (parts : AreNumberParts sign whole fraction power) :
    hasLeadingZero text = true ↔ ∃ next rest, whole = '0' :: next :: rest := by
  have isNumber : isDecimal text = true :=
    isDecimal_iff_isNumber.mpr ⟨sign, whole, fraction, power, parted, parts⟩
  have trimmed : Text.trimmed text.toList = text.toList := by
    have same := congrArg String.toList (trim_eq_self_of_isDecimal isNumber)
    rwa [Text.trim, String.toList_ofList] at same
  rw [hasLeadingZero, trimmed, parted,
    dropWhile_sign parts.isSign (head?_ne_sign_of_isUnsigned parts.isUnsigned)]
  cases whole with
  | nil =>
    obtain ⟨-, nonempty⟩ | ⟨digits, rfl, -⟩ := parts.isFraction
    · exact absurd rfl nonempty
    · simp
  | cons first rest =>
    by_cases zero : first = '0'
    · subst zero
      cases rest with
      | nil => simp [parts.startsWithDigit_fraction]
      | cons next rest =>
        have digit : next.isDigit = true :=
          isDigit_iff.mpr (parts.areDigits next (List.mem_cons_of_mem _ List.mem_cons_self))
        exact iff_of_true digit ⟨next, rest, rfl⟩
    · rw [List.cons_append]
      simp [zero]

/-- A number is padded or unpadded. -/
theorem hasLeadingZero_eq_false_iff_of_parts
    (parted : text.toList = sign ++ (whole ++ (fraction ++ power)))
    (parts : AreNumberParts sign whole fraction power) :
    hasLeadingZero text = false ↔ IsUnpadded whole := by
  rw [← Bool.not_eq_true, hasLeadingZero_iff_of_parts parted parts, IsUnpadded]
  rcases whole with _ | ⟨first, _ | ⟨next, rest⟩⟩
  · simp
  · simp [or_iff_not_imp_left]
  · simp

end Parts

/-- **The grammars of numbers.** A text is read as a whole number exactly when it is a sign, if any, and
digits, and as a decimal number exactly when it is made of the parts of one; the readers that never step
back take the same texts as a whole. Every whole number is a decimal number. However a text is cut into the
parts of a decimal number, it is not padded exactly when its digits before the point are none, a zero alone,
or start with another digit. -/
theorem numbers_follow_grammars (text : String) :
    (isInteger text = true ↔ Reader.integer.ReadsAll text.toList) ∧
      (isDecimal text = true ↔ Reader.decimal.ReadsAll text.toList) ∧
      (isInteger text = true ↔ IsWhole text.toList) ∧
      (isDecimal text = true ↔ IsNumber text.toList) ∧
      (isInteger text = true → isDecimal text = true) ∧
      ∀ sign whole fraction power, text.toList = sign ++ (whole ++ (fraction ++ power)) →
        AreNumberParts sign whole fraction power →
          (hasLeadingZero text = false ↔ IsUnpadded whole) :=
  ⟨isInteger_iff_readsAll, isDecimal_iff_readsAll, isInteger_iff_isWhole, isDecimal_iff_isNumber,
    isDecimal_of_isInteger, fun _ _ _ _ parted parts =>
      hasLeadingZero_eq_false_iff_of_parts parted parts⟩

/-- A number with all its parts, which a zero before the point does not pad. -/
theorem numbers_follow_grammars_balance :
    "-0.50e+3".toList = ['-'] ++ (['0'] ++ (['.', '5', '0'] ++ ['e', '+', '3'])) ∧
      AreNumberParts ['-'] ['0'] ['.', '5', '0'] ['e', '+', '3'] ∧
      isDecimal "-0.50e+3" = true ∧ hasLeadingZero "-0.50e+3" = false ∧
      isInteger "+3" = true ∧ isDecimal "+3" = true := by
  have parted : "-0.50e+3".toList = ['-'] ++ (['0'] ++ (['.', '5', '0'] ++ ['e', '+', '3'])) := by
    decide
  have areDigits (text : List Char) (each : text.all Char.isDigit = true) : AreDigits text :=
    fun c member => isDigit_iff.mp (List.all_eq_true.mp each c member)
  have parts : AreNumberParts ['-'] ['0'] ['.', '5', '0'] ['e', '+', '3'] := {
    isSign := .inr (.inr rfl)
    areDigits := areDigits _ (by decide)
    isFraction := .inr ⟨['5', '0'], rfl, areDigits _ (by decide), .inl (by decide)⟩
    isPower := .inr ⟨'e', ['+', '3'], rfl, .inl rfl, ['+'], ['3'], rfl, .inr (.inl rfl),
      areDigits _ (by decide), by decide⟩ }
  obtain ⟨-, -, -, isDecimal, -, padding⟩ := numbers_follow_grammars "-0.50e+3"
  obtain ⟨-, -, -, -, wholeIsDecimal, -⟩ := numbers_follow_grammars "+3"
  have isWhole : isInteger "+3" = true := by decide
  exact ⟨parted, parts, isDecimal.mpr ⟨_, _, _, _, parted, parts⟩,
    (padding _ _ _ _ parted parts).mpr (.inr (.inl rfl)), isWhole, wholeIsDecimal isWhole⟩

end SchemaCompiler.Literal
