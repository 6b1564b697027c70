/-
**The names that an engine reads.**

An engine takes a name between quotes as it is written there, a doubled mark standing for one. A bare
word is a name when it is an identifier and no reserved word; PostgreSQL puts it in lower case, MySQL and
SQLite take it as it is written.

Every quoted name is read as it was, so every table is created under its own name. A name that is
quoted only where it must be is read as it was unless PostgreSQL puts it in lower case: the test for
quotes does not look at capital letters.

* `readQuoted_quoted` — what is read between quotes.
* `needsQuoting_eq_false_iff` — the names that are written bare.
* `Dialect.readName_quoteIdentifier`, `Dialect.readName_escapePart` — the names that are read.
* `Dialect.readName_escapeIdentifier_iff` — where SELECT names what was created.
-/

import SchemaCompiler.Proofs.Lexical.Scan
import SchemaCompiler.Proofs.Validation.Legality

namespace SchemaCompiler

/-! ### Reading -/

/-- The rest of a text from behind an opening mark to the closing one, which must be its last
character; two marks stand for one. -/
def readQuoted (mark : Char) : List Char → Option (List Char)
  | [] => none
  | [c] => if c = mark then some [] else none
  | c :: next :: rest =>
    if c = mark then
      if next = mark then (readQuoted mark rest).map (mark :: ·) else none
    else (readQuoted mark (next :: rest)).map (c :: ·)

instance (name : String) : Decidable (IsIdentifier name) :=
  decidable_of_iff _ isIdentifier_iff.symm

namespace Dialect

/-- A bare name as an engine takes it. -/
def folded : Dialect → String → String
  | .postgres, name => Text.lowerAscii name
  | _, name => name

/-- The name that an engine reads from a text; none where the text is no name. -/
def readName? (d : Dialect) (text : String) : Option String :=
  match text.toList with
  | [] => none
  | c :: rest =>
    if c = d.quoteMark then (readQuoted d.quoteMark rest).map String.ofList
    else if IsIdentifier text ∧ isReservedWord text = false then some (d.folded text)
    else none

end Dialect

/-! ### Names between quotes -/

theorem readQuoted_cons_of_ne {mark c : Char} (other : c ≠ mark) (rest : List Char) :
    readQuoted mark (c :: rest) = (readQuoted mark rest).map (c :: ·) := by
  cases rest with
  | nil => simp [readQuoted, other]
  | cons next rest => rw [readQuoted, if_neg other]

/-- **What is read between quotes** is what was put there. -/
theorem readQuoted_quoted (d : Dialect) (name : List Char) :
    readQuoted d.quoteMark (name.flatMap d.nameChar ++ [d.quoteMark]) = some name := by
  induction name with
  | nil => simp [readQuoted]
  | cons c rest ih =>
    rw [List.flatMap_cons, List.append_assoc]
    by_cases same : c = d.quoteMark
    · rw [Dialect.nameChar, if_pos same, same, List.cons_append, List.singleton_append, readQuoted,
        if_pos rfl, if_pos rfl, ih, Option.map_some]
    · rw [Dialect.nameChar, if_neg same, List.singleton_append, readQuoted_cons_of_ne same, ih,
        Option.map_some]

/-! ### Bare names -/

/-- Identifiers start with what they go on with, digits apart. -/
theorem startsIdentifier_iff_not_digit {c : Char} :
    StartsIdentifier c ↔ inBareName c = true ∧ c.isDigit = false := by
  have digit : c.isDigit = true ↔ '0' ≤ c ∧ c ≤ '9' := by simp [Char.isDigit, Char.le_def]
  rw [← continuesIdentifier_iff, ContinuesIdentifier, ← Bool.not_eq_true, digit]
  constructor
  · intro starts
    refine ⟨.inl starts, fun isDigit => ?_⟩
    rcases starts with ⟨isUpper, -⟩ | ⟨isLower, -⟩ | rfl
    · exact absurd (Char.le_trans isUpper isDigit.2) (by decide)
    · exact absurd (Char.le_trans isLower isDigit.2) (by decide)
    · exact absurd isDigit.2 (by decide)
  · rintro ⟨starts | isDigit, notDigit⟩
    · exact starts
    · exact absurd isDigit notDigit

/-- **A name is written bare** exactly when it is an identifier and no reserved word. -/
theorem needsQuoting_eq_false_iff {name : String} :
    needsQuoting name = false ↔ IsIdentifier name ∧ isReservedWord name = false := by
  unfold needsQuoting IsIdentifier
  cases chars : name.toList with
  | nil =>
    have empty : name = "" := String.toList_eq_nil_iff.mp chars
    simp [empty]
  | cons first rest =>
    have nonempty : name ≠ "" := by
      rintro rfl
      cases chars
    simp only [Bool.or_eq_false_iff, beq_eq_false_iff_ne, ne_eq, nonempty, not_false_eq_true,
      true_and, List.any_cons, List.any_eq_false, List.head?_cons, Option.any_some, List.cons.injEq,
      Bool.not_eq_true', Bool.not_eq_false', Bool.not_eq_false, startsIdentifier_iff_not_digit,
      continuesIdentifier_iff]
    constructor
    · rintro ⟨⟨unreserved, bareFirst, bareRest⟩, notDigit⟩
      exact ⟨⟨first, rest, ⟨rfl, rfl⟩, ⟨bareFirst, notDigit⟩, bareRest⟩, unreserved⟩
    · rintro ⟨⟨_, _, ⟨rfl, rfl⟩, ⟨bareFirst, notDigit⟩, bareRest⟩, unreserved⟩
      exact ⟨⟨unreserved, bareFirst, bareRest⟩, notDigit⟩

/-- Only capital letters have another lower case. -/
theorem toLower_eq_self_iff {c : Char} : c.toLower = c ↔ ¬ ('A' ≤ c ∧ c ≤ 'Z') := by
  constructor
  · intro same capital
    have lowered : c.toLower.val = c.val + ('a'.val - 'A'.val) := congrArg Char.val (dif_pos capital)
    rw [same] at lowered
    simp at lowered
  · intro other
    exact dif_neg other

theorem lowerAscii_eq_self_iff {name : String} :
    Text.lowerAscii name = name ↔ ¬ ∃ c ∈ name.toList, 'A' ≤ c ∧ c ≤ 'Z' := by
  have ofChars : Text.lowerAscii name = name ↔ name.toList.map Char.toLower = name.toList := by
    rw [Text.lowerAscii, ← String.toList_inj, String.toList_ofList]
  have each := List.map_inj_left (f := Char.toLower) (g := id) (l := name.toList)
  rw [List.map_id] at each
  simp only [ofChars, each, id_eq, toLower_eq_self_iff, not_exists, not_and]

namespace Dialect

variable {d : Dialect} {name : String}

theorem folded_eq_self_iff :
    d.folded name = name ↔ ¬ (d = .postgres ∧ ∃ c ∈ name.toList, 'A' ≤ c ∧ c ≤ 'Z') := by
  cases d with
  | postgres => simpa [folded] using lowerAscii_eq_self_iff
  | _ => simp [folded]

/-! ### Names as they are read -/

/-- **A quoted name is read as it was.** -/
theorem readName_quoteIdentifier (d : Dialect) (name : String) :
    d.readName? (d.quoteIdentifier name) = some name := by
  simp [readName?, toList_quoteIdentifier, readQuoted_quoted]

/-- No bare name starts with a mark. -/
theorem ne_quoteMark_of_startsIdentifier {c : Char} (starts : StartsIdentifier c) :
    c ≠ d.quoteMark := by
  rintro rfl
  cases d <;> exact absurd (startsIdentifier_iff.mp starts) (by decide)

theorem readName_of_bare (bare : needsQuoting name = false) :
    d.readName? name = some (d.folded name) := by
  obtain ⟨identifier, unreserved⟩ := needsQuoting_eq_false_iff.mp bare
  obtain ⟨first, rest, chars, starts, -⟩ := identifier
  have noMark : first ≠ d.quoteMark := ne_quoteMark_of_startsIdentifier starts
  have isBare := needsQuoting_eq_false_iff.mp bare
  simp [readName?, chars, noMark, isBare]

/-- **A name that is quoted where it must be** is read as it was, or as a bare name. -/
theorem readName_escapePart (d : Dialect) (name : String) :
    d.readName? (d.escapePart name) =
      some (if needsQuoting name then name else d.folded name) := by
  unfold escapePart
  cases bare : needsQuoting name with
  | true => exact readName_quoteIdentifier d name
  | false => exact readName_of_bare bare

/-- A name without dots is one part. -/
theorem escapeIdentifier_of_undotted (undotted : '.' ∉ name.toList) :
    d.escapeIdentifier name = d.escapePart name := by
  rw [escapeIdentifier, List.splitOn_eq_singleton undotted, List.map_singleton, String.ofList_toList,
    String.intercalate_singleton]

/-- **SELECT names what was created**, except in PostgreSQL where the name is written bare and has a
capital letter. -/
theorem readName_escapeIdentifier_iff (d : Dialect) (undotted : '.' ∉ name.toList) :
    d.readName? (d.quoteIdentifier name) = some name ∧
      (d.readName? (d.escapeIdentifier name) = d.readName? (d.quoteIdentifier name) ↔
        ¬ (d = .postgres ∧ (IsIdentifier name ∧ isReservedWord name = false) ∧
          ∃ c ∈ name.toList, 'A' ≤ c ∧ c ≤ 'Z')) := by
  refine ⟨readName_quoteIdentifier d name, ?_⟩
  rw [readName_quoteIdentifier, escapeIdentifier_of_undotted undotted, readName_escapePart,
    Option.some_inj, ← needsQuoting_eq_false_iff]
  cases bare : needsQuoting name with
  | true => simp
  | false => simpa using folded_eq_self_iff

theorem readName_escapeIdentifier_orderItems :
    '.' ∉ "order_items".toList ∧
      Dialect.postgres.readName? (Dialect.postgres.escapeIdentifier "order_items") =
        Dialect.postgres.readName? (Dialect.postgres.quoteIdentifier "order_items") := by
  have undotted : '.' ∉ "order_items".toList := by decide
  have noCapital : ¬ ∃ c ∈ "order_items".toList, 'A' ≤ c ∧ c ≤ 'Z' :=
    lowerAscii_eq_self_iff.mp (by decide)
  exact ⟨undotted, (readName_escapeIdentifier_iff .postgres undotted).2.mpr
    fun capital => noCapital capital.2.2⟩

/-- Capital letters are lost: a table created as `Users` is selected from as `users`. -/
theorem readName_escapeIdentifier_users :
    '.' ∉ "Users".toList ∧
      Dialect.postgres.readName? (Dialect.postgres.quoteIdentifier "Users") = some "Users" ∧
      Dialect.postgres.readName? (Dialect.postgres.escapeIdentifier "Users") = some "users" := by
  decide

end Dialect

end SchemaCompiler
