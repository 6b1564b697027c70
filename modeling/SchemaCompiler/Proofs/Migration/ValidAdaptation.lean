/-
**Adapting a schema keeps it valid, with one exception.**

A table without errors in one dialect is adapted to another one. What is checked of names, indexes
and relationships does not change, the types are supported and the numbering of rows is in its
place. Only the defaults are left: they were checked for the old types, and are checked for the new
ones now.

Years are the exception. They may have a function such as `NOW()` for a default, but where there are
no years a whole number stands for them, and a whole number may not.

* `Table.errors_adaptTo_eq_nil_iff` — only defaults can become invalid.
* `Table.validate_adaptTo` — which of them do.
-/

import SchemaCompiler.Proofs.Literal.DefaultGrammar
import SchemaCompiler.Proofs.Migration.Adaptation

namespace SchemaCompiler

/-! ### Columns -/

namespace Column

variable {c : Column} {d : Dialect} {keyCount : Nat}

theorem default?_adaptTo : (c.adaptTo d keyCount).default? = c.default? := by
  rw [default?, default?, (kept_adaptTo c d keyCount).defaultText]

theorem nameErrors_adaptTo : (c.adaptTo d keyCount).nameErrors = c.nameErrors := by
  rw [nameErrors, nameErrors, (kept_adaptTo c d keyCount).name]

/-- A column without errors has only its default to lose when it is adapted. -/
theorem errors_adaptTo_eq_nil_iff {s : Dialect} (valid : c.errors s keyCount = []) :
    (c.adaptTo d keyCount).errors d keyCount = [] ↔
      (c.adaptTo d keyCount).defaultErrors = [] := by
  obtain ⟨nameValid, -, nullsValid, -, countValid⟩ := errors_eq_nil_iff.mp valid
  have supported : d.supports (c.adaptTo d keyCount).dataType = true := by
    rw [dataType_adaptTo]
    exact d.supports_substitute c.dataType
  have sameNotNull : (c.adaptTo d keyCount).has .notNull = c.has .notNull :=
    has_adaptTo c d keyCount (by decide) (by cases d <;> rfl)
  have counted := autoIncrementErrors_adaptTo c d keyCount fun counts =>
    (autoIncrementErrors_eq_nil_iff.mp countValid counts).1
  rw [errors_eq_nil_iff, nameErrors_adaptTo, (kept_adaptTo c d keyCount).nullable, sameNotNull]
  exact ⟨fun checks => checks.2.2.2.1,
    fun defaultValid => ⟨nameValid, supported, nullsValid, defaultValid, counted⟩⟩

/-- Years with a function for their default, in a dialect that has no years. -/
def LosesFunctionDefault (c : Column) (d : Dialect) : Prop :=
  c.dataType = .year ∧ d.supports .year = false ∧
    (c.default?.any fun text => (Literal.function? text).isSome) = true

instance (c : Column) (d : Dialect) : Decidable (c.LosesFunctionDefault d) :=
  inferInstanceAs (Decidable (_ ∧ _ ∧ _))

/-- **A default stays valid** unless it is a function of years that become whole numbers. -/
theorem defaultErrors_adaptTo_eq_nil_iff (valid : c.defaultErrors = []) :
    (c.adaptTo d keyCount).defaultErrors = [] ↔ ¬ c.LosesFunctionDefault d := by
  rw [defaultErrors_eq_nil_iff, default?_adaptTo, dataType_adaptTo]
  have wasValid := defaultErrors_eq_nil_iff.mp valid
  constructor
  · rintro isValid ⟨isYear, noYears, hasFunction⟩
    obtain ⟨text, hasDefault, isFunction⟩ := (Option.any_eq_true _ _).mp hasFunction
    have ofIntegers : Literal.grammar (d.substitute c.dataType) = .integer := by
      rw [isYear]
      exact Literal.grammar_substitute_year noYears
    have invalid := Literal.isValidDefault_integer_of_function ofIntegers isFunction
    rw [isValid text hasDefault] at invalid
    cases invalid
  · intro kept text hasDefault
    have made := wasValid text hasDefault
    rw [Literal.isValidDefault_eq, Bool.or_eq_true] at made ⊢
    rcases made with always | made
    · exact .inl always
    · right
      rcases Literal.grammar_substitute d c.dataType with same | any | ⟨isYear, noYears⟩
      · rw [same]
        exact made
      · rw [any]
        rfl
      · -- What makes a year, other than a function, makes a whole number.
        rw [isYear] at made ⊢
        rw [Literal.grammar_substitute_year noYears]
        rcases Literal.function_or_integer_of_year made with isFunction | isNumber
        · have hasFunction : (c.default?.any fun text => (Literal.function? text).isSome) = true := by
            rw [hasDefault, Option.any_some, isFunction]
          exact absurd ⟨isYear, noYears, hasFunction⟩ kept
        · exact isNumber

end Column

/-! ### Tables -/

namespace Table

variable {t : Table} {d : Dialect}

theorem repeatedColumns_adaptTo (unrepeated : t.repeatedColumns = []) :
    (t.adaptTo d).repeatedColumns = [] := by
  have sameKey : (fun c : Column => nameKey c.name) ∘ (Column.adaptTo · d t.primaryKey.length) =
      fun c => nameKey c.name := by
    funext c
    show nameKey (c.adaptTo d t.primaryKey.length).name = nameKey c.name
    rw [(Column.kept_adaptTo c d _).name]
  unfold repeatedColumns at unrepeated ⊢
  rw [List.map_eq_nil_iff] at unrepeated ⊢
  show repeated _ (t.columns.map _) = []
  rw [repeated_map, sameKey, unrepeated, List.map_nil]

theorem indexErrors_adaptTo (index : Index) :
    (t.adaptTo d).indexErrors index = t.indexErrors index := by
  unfold indexErrors
  congr 3
  funext id
  rw [columnById?_adaptTo, Option.isNone_map]

theorem relationshipErrors_adaptTo :
    (t.adaptTo d).relationshipErrors = t.relationshipErrors := by
  unfold relationshipErrors
  congr 2
  funext r
  rw [hasSource, hasSource, isSome_columnById?_adaptTo]

/-- **Only defaults become invalid** in a table that is adapted. -/
theorem errors_adaptTo_eq_nil_iff {s : Dialect} (valid : t.errors s = []) :
    (t.adaptTo d).errors d = [] ↔
      ∀ c ∈ t.columns, (c.adaptTo d t.primaryKey.length).defaultErrors = [] := by
  obtain ⟨nonempty, nameValid, unrepeated, columnsValid, indexesValid, relationshipsValid⟩ :=
    errors_eq_nil_iff.mp valid
  have columnsIff : (∀ c ∈ (t.adaptTo d).columns,
        c.errors d (t.adaptTo d).primaryKey.length = []) ↔
      ∀ c ∈ t.columns, (c.adaptTo d t.primaryKey.length).defaultErrors = [] := by
    rw [length_primaryKey_adaptTo]
    show (∀ c ∈ t.columns.map _, _) ↔ _
    rw [List.forall_mem_map]
    exact forall₂_congr fun c member => Column.errors_adaptTo_eq_nil_iff (columnsValid c member)
  rw [errors_eq_nil_iff, columnsIff]
  refine ⟨fun checks => checks.2.2.2.1, fun defaultsValid => ⟨?_, nameValid,
    repeatedColumns_adaptTo unrepeated, defaultsValid, fun index member => ?_, ?_⟩⟩
  · exact fun empty => nonempty (List.map_eq_nil_iff.mp empty)
  · rw [indexErrors_adaptTo]
    exact indexesValid index member
  · rw [relationshipErrors_adaptTo, relationshipsValid]

/-- **Adapting keeps a table valid** exactly when none of its years loses a function default. -/
theorem validate_adaptTo {s : Dialect} (valid : (t.validate s).errors = []) :
    ((t.adaptTo d).validate d).errors = [] ↔ ∀ c ∈ t.columns, ¬ c.LosesFunctionDefault d := by
  have noErrors := validate_errors_eq_nil_iff.mp valid
  obtain ⟨-, -, -, columnsValid, -, -⟩ := errors_eq_nil_iff.mp noErrors
  rw [validate_errors_eq_nil_iff, errors_adaptTo_eq_nil_iff noErrors]
  refine forall₂_congr fun c member => Column.defaultErrors_adaptTo_eq_nil_iff ?_
  exact (Column.errors_eq_nil_iff.mp (columnsValid c member)).2.2.2.1

/-! ### Years with a default -/

/-- A table of clubs with the year of their founding. -/
def clubs (founded : String) : Table :=
  { id := "t", name := "clubs",
    columns :=
      [ { id := "k", name := "id", dataType := .mediumInt, nullable := false,
          constraints := [.primaryKey, .autoIncrement] },
        { id := "f", name := "founded", dataType := .year, defaultText := some founded },
        { id := "j", name := "joined", dataType := .dateTime, defaultText := some "NOW()" } ] }

/-- Four digits stay a default when the year becomes a whole number. -/
theorem validate_adaptTo_clubs :
    ((clubs "1999").validate .mysql).errors = [] ∧
      (((clubs "1999").adaptTo .sqlite).validate .sqlite).errors = [] := by
  have valid : ((clubs "1999").validate .mysql).errors = [] := by decide
  exact ⟨valid, (validate_adaptTo valid).mpr (by decide)⟩

/-- The current time is a default of the year, but not of the whole number. -/
theorem validate_adaptTo_clubs_now :
    ((clubs "NOW()").validate .mysql).errors = [] ∧
      (((clubs "NOW()").adaptTo .postgres).validate .postgres).errors =
        ["Column 'clubs.founded': default NOW() is not a valid SMALLINT value"] := by
  decide

end Table

end SchemaCompiler
