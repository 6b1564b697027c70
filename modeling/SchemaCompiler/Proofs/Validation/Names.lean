/-
**The names of valid tables.**

The name of a table without errors is an identifier, so what names are compared by is never empty,
and no two tables of a database without errors share it.

* `Database.place_unique` — a table stands at one place of a database without errors.
-/

import Mathlib.Data.List.Nodup
import SchemaCompiler.Proofs.Validation.Errors

namespace SchemaCompiler

/-! ### Lower case of identifiers -/

theorem Text.lowerAfter_ne_nil {before rest : List Char} {c : Char} (ascii : c.toNat < 0x80) :
    lowerAfter before (c :: rest) ≠ [] := by
  have form : lowerChar c = [c.toLower] := if_pos ascii
  rw [lowerAfter, form]
  split
  · split <;> simp
  · simp

theorem toNat_lt_of_startsIdentifier {c : Char} (starts : (c.isAlpha || c = '_') = true) :
    c.toNat < 0x80 := by
  unfold Char.isAlpha Char.isUpper Char.isLower at starts
  simp only [Bool.or_eq_true, Bool.and_eq_true, decide_eq_true_eq,
    UInt32.le_iff_toNat_le] at starts
  rcases starts with (upper | lower) | rfl
  · exact Nat.lt_of_le_of_lt upper.2 (by decide)
  · exact Nat.lt_of_le_of_lt lower.2 (by decide)
  · decide

/-- The lower-case form of an identifier is not empty. -/
theorem lower_ne_empty_of_isValidIdentifier {name : String} (valid : isValidIdentifier name = true) :
    Text.lower name ≠ "" := by
  unfold isValidIdentifier at valid
  cases chars : name.toList with
  | nil => simp [chars] at valid
  | cons first rest =>
    simp only [chars, Bool.and_eq_true] at valid
    have ascii := toNat_lt_of_startsIdentifier valid.1
    have nonempty : Text.lowerAfter [] (first :: rest) ≠ [] := Text.lowerAfter_ne_nil ascii
    intro empty
    have nil : Text.lowerAfter [] name.toList = [] := by
      simpa [Text.lower, ← String.toList_inj] using empty
    exact nonempty (chars ▸ nil)

/-! ### Names of tables -/

/-- The trimmed name of a table without errors is an identifier. -/
theorem Table.isValidIdentifier_of_nameErrors {t : Table} (valid : t.nameErrors = []) :
    isValidIdentifier (Text.trim t.name) = true := by
  unfold nameErrors at valid
  by_cases empty : Text.trim t.name = ""
  · simp [empty] at valid
  · by_cases identifier : isValidIdentifier (Text.trim t.name) = true
    · exact identifier
    · simp [empty, identifier] at valid

theorem Table.nameKey_ne_empty {t : Table} {d : Dialect} (valid : t.errors d = []) :
    nameKey t.name ≠ "" :=
  lower_ne_empty_of_isValidIdentifier
    (isValidIdentifier_of_nameErrors (errors_eq_nil_iff.mp valid).2.1)

/-- **The tables of a database without errors have distinct names.** -/
theorem Database.nodup_nameKeys {db : Database} {d : Dialect} (valid : db.errors d = []) :
    (db.tables.map fun t => nameKey t.name).Nodup := by
  obtain ⟨unrepeated, tablesValid⟩ := errors_eq_nil_iff.mp valid
  refine List.pairwise_map.mpr ?_
  refine (repeated_eq_nil_iff.mp unrepeated).imp_of_mem fun {_ later} _ inTables distinct => ?_
  exact distinct (Table.nameKey_ne_empty (tablesValid later inTables))

/-- A table stands at one place of a database without errors. -/
theorem Database.place_unique {db : Database} {d : Dialect} (valid : db.errors d = [])
    {place other : Nat} {t : Table} (atPlace : db.tables[place]? = some t)
    (atOther : db.tables[other]? = some t) : place = other := by
  obtain ⟨inside, _⟩ := List.getElem?_eq_some_iff.mp atPlace
  refine (List.getElem?_inj (by simpa using inside) (nodup_nameKeys valid)).mp ?_
  rw [List.getElem?_map, List.getElem?_map, atPlace, atOther]

end SchemaCompiler
