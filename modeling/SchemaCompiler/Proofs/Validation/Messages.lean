/-
**What a report says of a table.**

Every message of a report comes from something that is wrong with the table or with one of its columns.
Messages of different kinds end in different words, so a message that is in a report shows what was found.

* `Table.column_mem_errors`, `Table.column_mem_warnings` — the columns that are reported on.
* `Column.unsupportedType_mem_errors`, `Column.misplacedAutoIncrement_mem_errors`,
  `Column.checksOmitted_mem_warnings_iff` — when a column is found wrong in these ways.
* `TableError.exists_ending`, `ColumnWarning.exists_ending` — the last words of messages.
-/

import SchemaCompiler.Proofs.Validation.Errors

namespace SchemaCompiler

/-! ### What is found in a column -/

namespace Column

variable {c : Column} {d : Dialect} {keyCount : Nat}

/-- What is wrong with a name is that there is none, or that it is malformed. -/
theorem mem_nameErrors {error : ColumnError} (found : error ∈ c.nameErrors) :
    error = .unnamed ∨ error = .malformedName := by
  simp only [nameErrors] at found
  split at found
  · exact .inl (List.mem_singleton.mp found)
  · exact .inr (mem_when.mp found).2

theorem unsupportedType_mem_errors :
    .unsupportedType ∈ c.errors d keyCount ↔ d.supports c.dataType = false := by
  have notOfName : .unsupportedType ∉ c.nameErrors := fun found => by
    rcases mem_nameErrors found with other | other <;> cases other
  have notOfCount : .unsupportedType ∉ c.autoIncrementErrors d keyCount := by
    unfold autoIncrementErrors
    split
    · simp
    · split <;> simp
  simp [errors, defaultErrors, notOfName, notOfCount]

theorem misplacedAutoIncrement_mem_errors :
    .misplacedAutoIncrement ∈ c.errors d keyCount ↔
      c.isAutoIncrement = true ∧ c.dataType.isNumeric = true ∧ d = .sqlite ∧
        c.mayCountInSqlite keyCount = false := by
  have notOfName : .misplacedAutoIncrement ∉ c.nameErrors := fun found => by
    rcases mem_nameErrors found with other | other <;> cases other
  have ofCount : .misplacedAutoIncrement ∈ c.errors d keyCount ↔
      .misplacedAutoIncrement ∈ c.autoIncrementErrors d keyCount := by
    simp [errors, defaultErrors, notOfName]
  rw [ofCount]
  unfold autoIncrementErrors
  by_cases counts : c.isAutoIncrement = true
  · by_cases numeric : c.dataType.isNumeric = true
    · simp [counts, numeric]
    · simp [counts, numeric]
  · simp [counts]

theorem checksOmitted_mem_warnings_iff :
    .checksOmitted ∈ c.warnings d ↔
      c.checkExpressions ≠ [] ∧ d.supportsConstraint (.check "") = false := by
  have notOfCount : .checksOmitted ∉ c.autoIncrementWarnings d := by
    unfold autoIncrementWarnings
    split <;> simp
  simp [warnings, notOfCount]

end Column

/-! ### What is found in a table -/

namespace Table

variable {t : Table} {d : Dialect}

theorem column_notMem_nameErrors {c : Column} {error : ColumnError} :
    .column c error ∉ t.nameErrors := by
  simp only [nameErrors]
  split
  · simp
  · split <;> simp

/-- What is wrong with a column of a table is an error of one of its columns. -/
theorem column_mem_errors {c : Column} {error : ColumnError} (found : .column c error ∈ t.errors d) :
    c ∈ t.columns ∧ error ∈ c.errors d t.primaryKey.length := by
  unfold errors at found
  split at found
  · simp at found
  · simpa [column_notMem_nameErrors, repeatedColumns, columnErrors, indexErrors, relationshipErrors]
      using found

/-- What is worth a warning about a column of a table is one about one of its columns. -/
theorem column_mem_warnings {c : Column} {warning : ColumnWarning}
    (found : .column c warning ∈ t.warnings d) : c ∈ t.columns ∧ warning ∈ c.warnings d := by
  have notOfKey : .column c warning ∉ t.keyWarnings := by
    unfold keyWarnings
    split <;> simp
  have notOfRelationships : ∀ r, .column c warning ∉ t.relationshipWarnings d r := fun r => by
    unfold relationshipWarnings
    split <;> simp
  unfold warnings at found
  split at found
  · cases found
  · simpa [notOfKey, notOfRelationships] using found

theorem mem_validate_errors {text : String} :
    text ∈ (t.validate d).errors ↔ ∃ error ∈ t.errors d, error.message d t = text := by
  rw [validate, Report.of, errorTexts, List.mem_map]

theorem mem_validate_warnings {text : String} :
    text ∈ (t.validate d).warnings ↔ ∃ warning ∈ t.warnings d, warning.message d t = text := by
  rw [validate, Report.of, List.mem_eraseDups, warningTexts, List.mem_map]

end Table

/-! ### The last words of messages -/

/-- Two texts neither of which ends with the other. -/
def EndApart (first second : String) : Prop :=
  ¬ first.toList <:+ second.toList ∧ ¬ second.toList <:+ first.toList

instance (first second : String) : Decidable (EndApart first second) :=
  inferInstanceAs (Decidable (_ ∧ _))

/-- Texts with different last words are different. -/
theorem EndApart.append_ne {first second : String} (apart : EndApart first second)
    (front other : String) : front ++ first ≠ other ++ second := by
  intro same
  have firstEnds : first.toList <:+ (front ++ first).toList :=
    ⟨front.toList, String.toList_append.symm⟩
  have secondEnds : second.toList <:+ (front ++ first).toList :=
    same ▸ ⟨other.toList, String.toList_append.symm⟩
  rcases List.suffix_or_suffix_of_suffix firstEnds secondEnds with inSecond | inFirst
  · exact apart.1 inSecond
  · exact apart.2 inFirst

/-- The last words of errors, apart from types that are not supported and numbered rows out of place. -/
def otherErrorEndings : List String :=
  [ "' must have a name", malformedText, "' is nullable but carries NOT NULL", " value",
    "' must have at least one column", "' is a reserved word", "' has no columns", "'" ] ++
    DataType.all.map (·.name)

/-- The last words of warnings, apart from checks that are not written. -/
def otherWarningEndings : List String :=
  [ "' has AUTO_INCREMENT without PRIMARY KEY", "use an identity column or a sequence",
    "': VARCHAR has no length", " has no precision", notNeededText .sqlite, "' has no primary key",
    " PRIMARY KEY columns; give the composite key a name", "'; ignored",
    "': SET DEFAULT is rejected by InnoDB" ]

/-- The last words of what is said of a dialect that cannot express a column. -/
def capabilityEndings : List String :=
  "column that is the sole PRIMARY KEY" :: Dialect.all.map (·.name)

theorem Dialect.name_mem_capabilityEndings (d : Dialect) : d.name ∈ capabilityEndings := by
  cases d <;> decide

theorem otherErrorEndings_apart :
    ∀ ending ∈ otherErrorEndings, ∀ last ∈ capabilityEndings, EndApart ending last := by
  decide +kernel

theorem otherWarningEndings_apart :
    ∀ ending ∈ otherWarningEndings, ∀ last ∈ capabilityEndings, EndApart ending last := by
  decide +kernel

theorem endApart_name_key (d : Dialect) :
    EndApart d.name "column that is the sole PRIMARY KEY" := by
  cases d <;> decide +kernel

theorem ColumnError.exists_ending (d : Dialect) (table : String) (c : Column) (error : ColumnError) :
    error = .unsupportedType ∨ error = .misplacedAutoIncrement ∨
      ∃ ending ∈ otherErrorEndings, ∃ front, error.message d table c = front ++ ending := by
  cases error with
  | unsupportedType => exact .inl rfl
  | misplacedAutoIncrement => exact .inr (.inl rfl)
  | textAutoIncrement =>
    have isName : c.dataType.name ∈ otherErrorEndings :=
      List.mem_append_right _ (List.mem_map_of_mem c.dataType.mem_all)
    exact .inr (.inr ⟨_, isName, _, rfl⟩)
  | unnamed => exact .inr (.inr ⟨"' must have a name", by decide, _, rfl⟩)
  | malformedName => exact .inr (.inr ⟨malformedText, by decide, _, rfl⟩)
  | nullableNotNull => exact .inr (.inr ⟨"' is nullable but carries NOT NULL", by decide, _, rfl⟩)
  | invalidDefault text => exact .inr (.inr ⟨" value", by decide, _, rfl⟩)

/-- **Errors are told apart by their last words.** -/
theorem TableError.exists_ending (d : Dialect) (t : Table) (error : TableError) :
    (∃ c, error = .column c .unsupportedType) ∨ (∃ c, error = .column c .misplacedAutoIncrement) ∨
      ∃ ending ∈ otherErrorEndings, ∃ front, error.message d t = front ++ ending := by
  cases error with
  | column c error =>
    rcases error.exists_ending d t.name c with rfl | rfl | other
    · exact .inl ⟨c, rfl⟩
    · exact .inr (.inl ⟨c, rfl⟩)
    · exact .inr (.inr other)
  | noColumns => exact .inr (.inr ⟨"' must have at least one column", by decide, _, rfl⟩)
  | unnamed => exact .inr (.inr ⟨"' must have a name", by decide, _, rfl⟩)
  | malformedName => exact .inr (.inr ⟨malformedText, by decide, _, rfl⟩)
  | reservedName => exact .inr (.inr ⟨"' is a reserved word", by decide, _, rfl⟩)
  | emptyIndex => exact .inr (.inr ⟨"' has no columns", by decide, _, rfl⟩)
  | repeatedColumn | unknownIndexColumn | unknownSourceColumn =>
    exact .inr (.inr ⟨"'", by decide, _, rfl⟩)

/-- Only an unsupported type is reported as one. -/
theorem TableError.eq_unsupportedType {d : Dialect} {t : Table} {error : TableError} {table : String}
    {c : Column} (same : error.message d t = ColumnError.unsupportedType.message d table c) :
    ∃ found, error = .column found .unsupportedType := by
  rcases error.exists_ending d t with isType | ⟨found, rfl⟩ | ⟨ending, member, front, form⟩
  · exact isType
  · exact absurd same.symm ((endApart_name_key d).append_ne _ _)
  · rw [form] at same
    have apart := otherErrorEndings_apart ending member _ d.name_mem_capabilityEndings
    exact absurd same (apart.append_ne _ _)

/-- Only numbered rows out of place are reported as such. -/
theorem TableError.eq_misplacedAutoIncrement {d : Dialect} {t : Table} {error : TableError}
    {table : String} {c : Column}
    (same : error.message d t = ColumnError.misplacedAutoIncrement.message d table c) :
    ∃ found, error = .column found .misplacedAutoIncrement := by
  rcases error.exists_ending d t with ⟨found, rfl⟩ | isCount | ⟨ending, member, front, form⟩
  · exact absurd same ((endApart_name_key d).append_ne _ _)
  · exact isCount
  · rw [form] at same
    have apart := otherErrorEndings_apart ending member _ List.mem_cons_self
    exact absurd same (apart.append_ne _ _)

theorem ColumnWarning.exists_ending (d : Dialect) (table : String) (c : Column)
    (warning : ColumnWarning) :
    warning = .checksOmitted ∨
      ∃ ending ∈ otherWarningEndings, ∃ front, warning.message d table c = front ++ ending := by
  -- What is not needed is said at the end, and only of SQLite.
  have notNeeded (front : String) {ending : String} (known : ending ∈ otherWarningEndings) :
      ∃ last ∈ otherWarningEndings, ∃ first, front ++ ending ++ notNeededText d = first ++ last := by
    cases d with
    | sqlite => exact ⟨notNeededText .sqlite, by decide, _, rfl⟩
    | _ => exact ⟨ending, known, front, String.append_empty⟩
  cases warning with
  | checksOmitted => exact .inl rfl
  | autoIncrementOutsideKey =>
    exact .inr ⟨"' has AUTO_INCREMENT without PRIMARY KEY", by decide, _, rfl⟩
  | autoIncrementOmitted => exact .inr ⟨"use an identity column or a sequence", by decide, _, rfl⟩
  | noLength => exact .inr (notNeeded _ (by decide))
  | noPrecision => exact .inr (notNeeded _ (by decide))

/-- Only checks that are not written are warned of as such. -/
theorem TableWarning.eq_checksOmitted {d : Dialect} {t : Table} {warning : TableWarning}
    {table : String} {c : Column}
    (same : warning.message d t = ColumnWarning.checksOmitted.message d table c) :
    ∃ found, warning = .column found .checksOmitted := by
  have apart {ending front : String} (member : ending ∈ otherWarningEndings)
      (form : warning.message d t = front ++ ending) : False := by
    rw [form] at same
    exact (otherWarningEndings_apart ending member _ d.name_mem_capabilityEndings).append_ne _ _ same
  cases warning with
  | column found warning =>
    rcases warning.exists_ending d t.name found with rfl | ⟨ending, member, front, form⟩
    · exact ⟨found, rfl⟩
    · exact (apart member form).elim
  | noPrimaryKey => exact (apart (by decide : "' has no primary key" ∈ _) rfl).elim
  | unnamedKey =>
    exact (apart (by decide : " PRIMARY KEY columns; give the composite key a name" ∈ _) rfl).elim
  | misplacedRelationship => exact (apart (by decide : "'; ignored" ∈ _) rfl).elim
  | setDefaultRejected =>
    exact (apart (by decide : "': SET DEFAULT is rejected by InnoDB" ∈ _) rfl).elim

end SchemaCompiler
