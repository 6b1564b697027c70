/-
**Names without the blanks at their ends.**

Names are checked without the blanks at their ends. A name that is an identifier then is one as it is
exactly when it has no such blanks. Reserved words have no blanks, so a name that is none then is none as
it is.

* `isValidIdentifier_iff_trim_eq` — when a name is an identifier as it is.
* `isReservedWord_eq_false_of_trim` — blanks make no reserved word.
-/

import SchemaCompiler.Proofs.Validation.Legality

namespace SchemaCompiler

/-! ### Blanks at the ends of names -/

/-- Bare names are without blanks. -/
theorem isBlank_eq_false_of_inBareName {c : Char} (inClass : inBareName c = true) :
    Text.isBlank c = false := by
  have bounds : 0x30 ≤ c.toNat ∧ c.toNat ≤ 0x7A := by
    rcases continuesIdentifier_iff.mpr inClass with (upper | lower | rfl) | digit
    · exact ⟨Nat.le_trans (by decide) upper.1, Nat.le_trans upper.2 (by decide)⟩
    · exact ⟨Nat.le_trans (by decide) lower.1, Nat.le_trans lower.2 (by decide)⟩
    · decide
    · exact ⟨digit.1, Nat.le_trans digit.2 (by decide)⟩
  exact Text.isBlank_eq_false_of_visible (Nat.lt_of_lt_of_le (by decide) bounds.1)
    (Nat.lt_of_le_of_lt bounds.2 (by decide))

/-- A text without blanks is trimmed. -/
theorem trim_eq_self_of_unblank {name : String} (unblank : ∀ c ∈ name.toList, Text.isBlank c = false) :
    Text.trim name = name := by
  rw [Text.trim, Text.trimmed_eq_self (fun c isFirst => unblank c (List.mem_of_mem_head? isFirst))
    (fun c isLast => unblank c (List.mem_of_getLast? isLast)), String.ofList_toList]

/-- **A name that is an identifier without its blanks** is one as it is exactly when it has none. -/
theorem isValidIdentifier_iff_trim_eq {name : String}
    (valid : isValidIdentifier (Text.trim name) = true) :
    isValidIdentifier name = true ↔ Text.trim name = name := by
  constructor
  · intro asPrinted
    obtain ⟨first, rest, chars, starts, continues⟩ := isIdentifier_iff.mpr asPrinted
    refine trim_eq_self_of_unblank fun c member => isBlank_eq_false_of_inBareName ?_
    rw [chars] at member
    rw [← continuesIdentifier_iff]
    rcases List.mem_cons.mp member with rfl | inRest
    · exact .inl starts
    · exact continues c inRest
  · intro same
    rwa [same] at valid

/-! ### Blanks and reserved words -/

namespace Text

/-- The blank characters by their codes. -/
def blankCodes : List Nat :=
  List.range' 0x09 5 ++ [0x20, 0x85, 0xA0, 0x1680] ++ List.range' 0x2000 11 ++
    [0x2028, 0x2029, 0x202F, 0x205F, 0x3000]

theorem mem_blankCodes {c : Char} (blank : isBlank c = true) : c.toNat ∈ blankCodes := by
  simp only [isBlank, Bool.or_eq_true, Bool.and_eq_true, decide_eq_true_eq, beq_iff_eq] at blank
  simp only [blankCodes, List.mem_append, List.mem_range'_1, List.mem_cons, List.not_mem_nil, or_false]
  omega

/-- A blank has no other lower case. -/
theorem lowerChar_of_isBlank {c : Char} (blank : isBlank c = true) : c ≠ 'Σ' ∧ lowerChar c = [c] := by
  have each : ∀ code ∈ blankCodes,
      Char.ofNat code ≠ 'Σ' ∧ lowerChar (Char.ofNat code) = [Char.ofNat code] := by
    decide +kernel
  have ofCode := each c.toNat (mem_blankCodes blank)
  rwa [Char.ofNat_toNat] at ofCode

/-- Blanks stay in lower case. -/
theorem mem_lowerAfter_of_isBlank {c : Char} (blank : isBlank c = true) {text : List Char}
    (member : c ∈ text) (before : List Char) : c ∈ lowerAfter before text := by
  induction text generalizing before with
  | nil => cases member
  | cons first rest ih =>
    rw [lowerAfter, List.mem_append]
    rcases List.mem_cons.mp member with rfl | inRest
    · obtain ⟨notSigma, form⟩ := lowerChar_of_isBlank blank
      rw [if_neg notSigma, form]
      exact .inl (List.mem_singleton.mpr rfl)
    · exact .inr (ih inRest _)

end Text

theorem reservedWords_unblank :
    ∀ word ∈ reservedWords, ∀ c ∈ word.toList, Text.isBlank c = false := by
  have all : reservedWords.all fun word => word.toList.all fun c => !Text.isBlank c := by
    decide +kernel
  simpa using all

/-- **Blanks make no reserved word**: a name that is none without its blanks is none as it is. -/
theorem isReservedWord_eq_false_of_trim {name : String}
    (unreserved : isReservedWord (Text.trim name) = false) : isReservedWord name = false := by
  rw [← Bool.not_eq_true] at unreserved ⊢
  intro reserved
  have listed : Text.lower name ∈ reservedWords := List.contains_iff_mem.mp reserved
  have unblank : ∀ c ∈ name.toList, Text.isBlank c = false := by
    intro c member
    rw [← Bool.not_eq_true]
    intro blank
    have stays : c ∈ (Text.lower name).toList := by
      rw [Text.lower, String.toList_ofList]
      exact Text.mem_lowerAfter_of_isBlank blank member []
    rw [reservedWords_unblank _ listed c stays] at blank
    cases blank
  rw [trim_eq_self_of_unblank unblank] at unreserved
  exact unreserved reserved

end SchemaCompiler
