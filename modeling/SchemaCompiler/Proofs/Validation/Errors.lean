/-
**When a check reports no errors.**

The errors of a report are the messages of a list of causes, so a report is free of errors exactly
when there is no cause. The causes of a database, a table and a column are taken apart here into
the checks that they come from.

* `Database.errors_eq_nil_iff`, `Table.errors_eq_nil_iff`, `Column.errors_eq_nil_iff` — the checks
  behind each list of causes.
* `repeated_eq_nil_iff` — no key is repeated exactly when the keys other than the empty one are
  pairwise distinct.
-/

import SchemaCompiler.Validation.Database

namespace SchemaCompiler

/-! ### Items under a condition -/

@[simp] theorem when_eq_nil_iff {α : Type} {condition : Bool} {item : α} :
    when condition item = [] ↔ condition = false := by
  cases condition <;> simp [when]

/-! ### Repeated keys -/

section Repeated

variable {α β : Type} {key : α → String}

theorem repeatedAfter_eq_nil_iff {seen : List String} {items : List α} :
    repeatedAfter key seen items = [] ↔
      (∀ item ∈ items, key item ≠ "" → key item ∉ seen) ∧
        items.Pairwise fun a b => key b ≠ "" → key a ≠ key b := by
  induction items generalizing seen with
  | nil => simp [repeatedAfter]
  | cons item rest ih =>
    by_cases fault : key item ≠ "" ∧ key item ∈ seen
    · rw [repeatedAfter, if_pos fault]
      refine iff_of_false (List.cons_ne_nil _ _) fun free => ?_
      exact free.1 item List.mem_cons_self fault.1 fault.2
    · rw [repeatedAfter, if_neg fault, ih, List.pairwise_cons]
      constructor
      · rintro ⟨unseen, distinct⟩
        refine ⟨?_, fun other inRest named same => ?_, distinct⟩
        · intro other member named inSeen
          rcases List.mem_cons.mp member with isItem | inRest
          · exact fault ⟨isItem ▸ named, isItem ▸ inSeen⟩
          · exact unseen other inRest named (List.mem_cons_of_mem _ inSeen)
        · exact unseen other inRest named (List.mem_cons.mpr (.inl same.symm))
      · rintro ⟨unseen, fromItem, distinct⟩
        refine ⟨fun other inRest named member => ?_, distinct⟩
        rcases List.mem_cons.mp member with same | inSeen
        · exact fromItem other inRest named same.symm
        · exact unseen other (List.mem_cons_of_mem _ inRest) named inSeen

/-- **No item is repeated** exactly when the keys other than the empty one are distinct. -/
theorem repeated_eq_nil_iff {items : List α} :
    repeated key items = [] ↔ items.Pairwise fun a b => key b ≠ "" → key a ≠ key b := by
  simp [repeated, repeatedAfter_eq_nil_iff]

theorem repeatedAfter_map (f : β → α) (seen : List String) (items : List β) :
    repeatedAfter key seen (items.map f) = (repeatedAfter (key ∘ f) seen items).map f := by
  induction items generalizing seen with
  | nil => rfl
  | cons item rest ih =>
    by_cases fault : key (f item) ≠ "" ∧ key (f item) ∈ seen <;>
      simp [repeatedAfter, fault, ih]

/-- Items that are changed are repeated where the items themselves are. -/
theorem repeated_map (f : β → α) (items : List β) :
    repeated key (items.map f) = (repeated (key ∘ f) items).map f :=
  repeatedAfter_map f [] items

end Repeated

/-! ### Columns -/

theorem Column.errors_eq_nil_iff {c : Column} {d : Dialect} {keyCount : Nat} :
    c.errors d keyCount = [] ↔
      c.nameErrors = [] ∧ d.supports c.dataType = true ∧
        (c.nullable && c.has .notNull) = false ∧ c.defaultErrors = [] ∧
        c.autoIncrementErrors d keyCount = [] := by
  simp only [Column.errors, List.append_eq_nil_iff, when_eq_nil_iff, Bool.not_eq_false', and_assoc]

theorem Column.defaultErrors_eq_nil_iff {c : Column} :
    c.defaultErrors = [] ↔
      ∀ text, c.default? = some text → Literal.isValidDefault c.dataType text = true := by
  simp [Column.defaultErrors]

/-- Rows are numbered by numbers, and in SQLite only in the one column of an integer key. -/
theorem Column.autoIncrementErrors_eq_nil_iff {c : Column} {d : Dialect} {keyCount : Nat} :
    c.autoIncrementErrors d keyCount = [] ↔
      (c.isAutoIncrement = true →
        c.dataType.isNumeric = true ∧ (d = .sqlite → c.mayCountInSqlite keyCount = true)) := by
  unfold Column.autoIncrementErrors
  by_cases counts : c.isAutoIncrement = true
  · by_cases numeric : c.dataType.isNumeric = true
    · simp [counts, numeric, Decidable.imp_iff_not_or]
    · simp [counts, numeric]
  · simp [counts]

/-! ### Tables -/

namespace Table

variable {t : Table} {d : Dialect}

theorem columnErrors_eq_nil_iff :
    t.columnErrors d = [] ↔ ∀ c ∈ t.columns, c.errors d t.primaryKey.length = [] := by
  simp [columnErrors, List.flatMap_eq_nil_iff]

theorem errors_eq_nil_iff :
    t.errors d = [] ↔
      t.columns ≠ [] ∧ t.nameErrors = [] ∧ t.repeatedColumns = [] ∧
        (∀ c ∈ t.columns, c.errors d t.primaryKey.length = []) ∧
        (∀ index ∈ t.indexes, t.indexErrors index = []) ∧ t.relationshipErrors = [] := by
  unfold errors
  by_cases empty : t.columns = []
  · simp [empty]
  · rw [if_neg (by simpa using empty)]
    simp only [List.append_eq_nil_iff, columnErrors_eq_nil_iff, List.flatMap_eq_nil_iff, and_assoc,
      ne_eq, empty, not_false_eq_true, true_and]

theorem validate_errors_eq_nil_iff : (t.validate d).errors = [] ↔ t.errors d = [] := by
  simp [validate, Report.of, errorTexts]

end Table

/-! ### Databases -/

namespace Database

variable {db : Database} {d : Dialect}

theorem errors_eq_nil_iff :
    db.errors d = [] ↔
      (repeated (fun t : Table => nameKey t.name) db.tables = []) ∧
        ∀ t ∈ db.tables, t.errors d = [] := by
  simp [errors, repeatedTables, List.flatMap_eq_nil_iff]

theorem validate_errors_eq_nil_iff : (db.validate d).errors = [] ↔ db.errors d = [] := by
  simp [validate, Report.of]

end Database

end SchemaCompiler
