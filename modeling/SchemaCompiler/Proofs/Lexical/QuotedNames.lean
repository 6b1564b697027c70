/-
**Quoted names.**

A name is put between two marks, with the marks in it written twice. The reader takes a text apart again:
it needs a mark at each end, and between them marks in pairs. So quoting loses nothing and the reader
accepts nothing else: names and quoted names are in one-to-one correspondence.

* `Text.Quoted.InPairs` — the texts that may stand between two marks.
* `Text.Quoted.double_of_halve`, `Text.Quoted.inPairs_iff` — these are the texts with doubled marks.
* `Text.Quoted.unquote?_eq_some_iff` — what the reader accepts, and as which text.
* `Text.Quoted.exists_quote_iff` — what the quoted forms of texts look like.
* `Dialect.quoteIdentifier_bijection` — the correspondence for every dialect.
-/

import SchemaCompiler.Sql.Identifier

namespace SchemaCompiler

namespace Text.Quoted

/-- Texts in which marks come in pairs, read from the start. -/
inductive InPairs (mark : Char) : List Char → Prop where
  | nil : InPairs mark []
  | other {c : Char} {rest : List Char} : c ≠ mark → InPairs mark rest → InPairs mark (c :: rest)
  | pair {rest : List Char} : InPairs mark rest → InPairs mark (mark :: mark :: rest)

section Reader

variable {mark : Char} {text inner : List Char}

/-! ### Between the marks -/

/-- **What is read from a text** has it as its doubled form. -/
theorem double_of_halve (halved : halve mark text = some inner) : double mark inner = text := by
  -- The reader takes one character or a pair of marks at a time, and each writes them back.
  fun_induction halve mark text generalizing inner with
  | case1 =>
    cases halved
    rfl
  | case2 => cases halved
  | case3 c other =>
    cases halved
    rw [double, if_neg other, double]
  | case4 rest ih =>
    obtain ⟨tail, read, rfl⟩ := Option.map_eq_some_iff.mp halved
    rw [double, if_pos rfl, ih read]
  | case5 => cases halved
  | case6 c next rest other ih =>
    obtain ⟨tail, read, rfl⟩ := Option.map_eq_some_iff.mp halved
    rw [double, if_neg other, ih read]

/-- In a doubled text the marks come in pairs. -/
theorem inPairs_double (mark : Char) (inner : List Char) : InPairs mark (double mark inner) := by
  induction inner with
  | nil => exact .nil
  | cons c rest ih =>
    rw [double]
    split
    · exact .pair ih
    · rename_i other
      exact .other other ih

/-- **The texts in which marks come in pairs** are the doubled ones. -/
theorem inPairs_iff : InPairs mark text ↔ ∃ inner, double mark inner = text := by
  constructor
  · intro pairs
    induction pairs with
    | nil => exact ⟨[], rfl⟩
    | @other c rest other _ ih =>
      obtain ⟨inner, rfl⟩ := ih
      exact ⟨c :: inner, by rw [double, if_neg other]⟩
    | pair _ ih =>
      obtain ⟨inner, rfl⟩ := ih
      exact ⟨mark :: inner, by rw [double, if_pos rfl]⟩
  · rintro ⟨inner, rfl⟩
    exact inPairs_double mark inner

/-! ### Between and with the marks -/

/-- A mark at each end, and not the same one. -/
theorem inner?_eq_some_iff : inner? mark text = some inner ↔ text = mark :: (inner ++ [mark]) := by
  constructor
  · intro found
    unfold inner? at found
    split at found
    · cases found
    · rename_i first rest
      split at found
      · rename_i ends
        obtain ⟨rfl, isLast⟩ := ends
        obtain ⟨front, rfl⟩ := List.getLast?_eq_some_iff.mp isLast
        cases found
        rw [List.dropLast_concat]
      · cases found
  · rintro rfl
    simp [inner?]

/-- **What the reader accepts**: a text is read as the one whose quoted form it is. -/
theorem unquote?_eq_some_iff {quoted text : String} :
    unquote? mark quoted = some text ↔ quote mark text = quoted := by
  constructor
  · intro read
    simp only [unquote?, Option.map_eq_some_iff, Option.bind_eq_some_iff,
      inner?_eq_some_iff] at read
    obtain ⟨chars, ⟨inner, whole, halved⟩, rfl⟩ := read
    rw [← String.toList_inj, toList_quote, String.toList_ofList, double_of_halve halved, whole]
  · rintro rfl
    exact unquote_quote mark text

/-- **The quoted forms of texts**: a mark at each end, and marks in pairs between them. -/
theorem exists_quote_iff {quoted : String} :
    (∃ text, quote mark text = quoted) ↔
      ∃ inner, quoted.toList = mark :: (inner ++ [mark]) ∧ InPairs mark inner := by
  constructor
  · rintro ⟨text, rfl⟩
    exact ⟨double mark text.toList, toList_quote mark text, inPairs_double mark _⟩
  · rintro ⟨_, whole, pairs⟩
    obtain ⟨inner, rfl⟩ := inPairs_iff.mp pairs
    refine ⟨String.ofList inner, ?_⟩
    rw [← String.toList_inj, toList_quote, String.toList_ofList, whole]

end Reader

end Text.Quoted

namespace Dialect

open Text.Quoted (InPairs exists_quote_iff unquote?_eq_some_iff)

/-- **Quoting is a one-to-one correspondence** between names and the texts with a mark at each end and
marks in pairs between them: every quoted name is read as it was, and what is read as a name is its
quoted form. -/
theorem quoteIdentifier_bijection (d : Dialect) :
    (∀ name, d.unquoteIdentifier? (d.quoteIdentifier name) = some name) ∧
      (∀ text name, d.unquoteIdentifier? text = some name ↔ d.quoteIdentifier name = text) ∧
      (∀ text, (d.unquoteIdentifier? text).isSome = true ↔
        ∃ name, d.quoteIdentifier name = text) ∧
      ∀ text, (d.unquoteIdentifier? text).isSome = true ↔
        ∃ inner, text.toList = d.quoteMark :: (inner ++ [d.quoteMark]) ∧
          InPairs d.quoteMark inner := by
  have readsAs (text name : String) :
      d.unquoteIdentifier? text = some name ↔ d.quoteIdentifier name = text :=
    unquote?_eq_some_iff
  have image (text : String) :
      (d.unquoteIdentifier? text).isSome = true ↔ ∃ name, d.quoteIdentifier name = text := by
    simp only [Option.isSome_iff_exists, readsAs]
  exact ⟨unquoteIdentifier_quoteIdentifier d, readsAs, image,
    fun text => (image text).trans exists_quote_iff⟩

/-- A mark that stands alone between the others belongs to no quoted name. -/
example : sqlite.unquoteIdentifier? "\"a\"b\"" = none ∧
    sqlite.unquoteIdentifier? "\"a\"\"b\"" = some "a\"b" := by
  decide

end Dialect

end SchemaCompiler
