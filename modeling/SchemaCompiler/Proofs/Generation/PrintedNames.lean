/-
**The names that a table is written with.**

The check of a table looks at names without the blanks at their ends; the statements that create it print
them as they are. Every name that is printed for a table without errors is its own or that of one of its
columns, so it is an identifier once its blanks are off, and as printed exactly when it has none.

* `Statement.prints_ownNames` — a statement prints its own names between quotes.
* `Table.mem_ownNames_iff`, `Table.prints_createText` — the names that are printed for a table.
* `Table.names_generate` — what is known of them.
-/

import SchemaCompiler.Proofs.Generation.Relationships
import SchemaCompiler.Proofs.Lexical.Occurrence
import SchemaCompiler.Proofs.Validation.Trimming

namespace SchemaCompiler

/-! ### Names in texts -/

/-- A text prints a name between the quotes of a dialect. -/
def Dialect.Prints (d : Dialect) (name text : String) : Prop :=
  ∃ before after, text = before ++ d.quoteIdentifier name ++ after

section Prints

variable {d : Dialect} {options : GenerateOptions} {name text : String}

theorem Dialect.prints_quoteIdentifier (d : Dialect) (name : String) :
    d.Prints name (d.quoteIdentifier name) :=
  occurs_self _

namespace Dialect.Prints

theorem after (prints : d.Prints name text) (front : String) : d.Prints name (front ++ text) :=
  Occurs.after prints front

theorem before (prints : d.Prints name text) (back : String) : d.Prints name (text ++ back) :=
  Occurs.before prints back

theorem intercalate (prints : d.Prints name text) (separator : String) {parts : List String}
    (isPart : text ∈ parts) : d.Prints name (separator.intercalate parts) :=
  Occurs.intercalate prints separator isPart

theorem inParentheses (prints : d.Prints name text) (pretty : Bool) {parts : List String}
    (isPart : text ∈ parts) : d.Prints name (inParentheses pretty parts) := by
  cases pretty with
  | true =>
    rw [inParentheses_pretty]
    exact ((prints.intercalate _ isPart).after _).before _
  | false =>
    rw [inParentheses_plain]
    exact ((prints.intercalate _ isPart).after _).before _

end Dialect.Prints

theorem prints_tableName (d : Dialect) (options : GenerateOptions) (name : String) :
    d.Prints name (d.tableName options name) := by
  unfold Dialect.tableName
  split
  · exact (d.prints_quoteIdentifier name).after _
  · exact d.prints_quoteIdentifier name

theorem prints_nameList {names : List String} (listed : name ∈ names) :
    d.Prints name (nameList d names) :=
  (((d.prints_quoteIdentifier name).intercalate _ (List.mem_map_of_mem listed)).after _).before _

end Prints

/-! ### Names in statements -/

/-- The names of columns that a definition prints for its own table. -/
def Definition.ownNames : Definition → List String
  | .column definition => [definition.name]
  | .primaryKey _ columns => columns
  | .foreignKey key => [key.sourceColumn]

/-- The names that a statement prints for its own table: that of the table and those of columns. -/
def Statement.ownNames : Statement → List String
  | .createTable table definitions _ => table :: definitions.flatMap (·.ownNames)
  | .commentOnTable table _ => [table]
  | .commentOnColumn table column _ => [table, column]
  | .createIndex _ _ table columns => table :: columns

section Statements

variable {d : Dialect} {options : GenerateOptions} {name : String}

/-- A definition prints its own names. -/
theorem Definition.prints_ownNames {definition : Definition} (own : name ∈ definition.ownNames) :
    d.Prints name (definition.render d options) := by
  cases definition with
  | column definition =>
    rw [List.mem_singleton.mp own]
    exact (d.prints_quoteIdentifier _).intercalate _ List.mem_cons_self
  | primaryKey key columns =>
    have inKey : d.Prints name ("PRIMARY KEY " ++ nameList d columns) := (prints_nameList own).after _
    cases key with
    | none => exact inKey
    | some key => exact inKey.after _
  | foreignKey key =>
    rw [List.mem_singleton.mp own]
    show d.Prints _ (key.render d options)
    unfold ForeignKey.render
    iterate 7 refine .before ?_ _
    exact (d.prints_quoteIdentifier key.sourceColumn).after _

/-- **A statement prints its own names.** -/
theorem Statement.prints_ownNames {statement : Statement} (own : name ∈ statement.ownNames) :
    d.Prints name (statement.render d options) := by
  cases statement with
  | createTable table definitions tableOptions =>
    rcases List.mem_cons.mp own with rfl | ofDefinition
    · iterate 3 refine .before ?_ _
      exact (prints_tableName d options _).after _
    · obtain ⟨definition, member, own⟩ := List.mem_flatMap.mp ofDefinition
      have isPart : definition.render d options ∈ definitions.map (·.render d options) :=
        List.mem_map_of_mem member
      iterate 2 refine .before ?_ _
      exact ((Definition.prints_ownNames own).inParentheses _ isPart).after _
  | commentOnTable table comment =>
    rw [List.mem_singleton.mp own]
    iterate 3 refine .before ?_ _
    exact (prints_tableName d options _).after _
  | commentOnColumn table column comment =>
    rcases List.mem_cons.mp own with rfl | ofColumn
    · iterate 5 refine .before ?_ _
      exact (prints_tableName d options _).after _
    · rw [List.mem_singleton.mp ofColumn]
      iterate 3 refine .before ?_ _
      exact (d.prints_quoteIdentifier column).after _
  | createIndex unique index table columns =>
    rcases List.mem_cons.mp own with rfl | ofColumn
    · iterate 3 refine .before ?_ _
      exact (prints_tableName d options _).after _
    · exact ((prints_nameList ofColumn).after _).before _

end Statements

namespace Table

variable {t : Table} {tables : List Table} {d : Dialect} {options : GenerateOptions}

/-- The names of a table and of its columns. -/
def names (t : Table) : List String :=
  t.name :: t.columns.map (·.name)

theorem name_mem_names : t.name ∈ t.names :=
  List.mem_cons_self

theorem columnName_mem_names {c : Column} (member : c ∈ t.columns) : c.name ∈ t.names :=
  List.mem_cons_of_mem _ (List.mem_map_of_mem member)

theorem found_mem_names {id : String} {c : Column} (found : t.columnById? id = some c) :
    c.name ∈ t.names :=
  columnName_mem_names (List.mem_of_find?_eq_some found)

theorem mem_names_of_mem_definitions {definition : Definition}
    (member : definition ∈ t.definitions tables d options) {name : String}
    (own : name ∈ definition.ownNames) : name ∈ t.names := by
  simp only [definitions, columnDefinitions, foreignKeys, List.mem_append, List.mem_map,
    List.mem_filterMap] at member
  rcases member with (⟨c, isColumn, rfl⟩ | isKey) | ⟨key, ⟨r, -, resolved⟩, rfl⟩
  · rw [List.mem_singleton.mp own]
    exact columnName_mem_names isColumn
  · unfold keyDefinitions at isKey
    split at isKey
    · rw [List.mem_singleton.mp isKey] at own
      obtain ⟨c, inKey, rfl⟩ := List.mem_map.mp own
      exact columnName_mem_names (List.mem_filter.mp inKey).1
    · cases isKey
  · split at resolved
    · rename_i ends joined
      obtain rfl := Option.some.inj resolved
      rw [List.mem_singleton.mp own]
      exact found_mem_names (Relationship.resolve_eq_ok_iff_joins.mp joined).source
    · cases resolved

theorem mem_names_of_mem_commentStatements {statement : Statement}
    (member : statement ∈ t.commentStatements d options) {name : String}
    (own : name ∈ statement.ownNames) : name ∈ t.names := by
  unfold commentStatements at member
  split at member
  · simp only [List.mem_append, List.mem_map, List.mem_flatMap] at member
    rcases member with ⟨comment, -, rfl⟩ | ⟨c, isColumn, comment, -, rfl⟩
    · rw [List.mem_singleton.mp own]
      exact name_mem_names
    · rcases List.mem_cons.mp own with rfl | ofColumn
      · exact name_mem_names
      · rw [List.mem_singleton.mp ofColumn]
        exact columnName_mem_names isColumn
  · cases member

theorem mem_names_of_indexStatement {index : Index} {statement : Statement}
    (stated : t.indexStatement index = .ok statement) {name : String}
    (own : name ∈ statement.ownNames) : name ∈ t.names := by
  obtain ⟨columns, found, rfl⟩ := Traversal.return_eq_ok_iff.mp stated
  rcases List.mem_cons.mp own with rfl | ofColumn
  · exact name_mem_names
  · obtain ⟨id, -, named⟩ := Traversal.exists_of_forall₂ (Traversal.mapM_eq_ok_iff.mp found) ofColumn
    split at named
    · rename_i c isColumn
      cases named
      exact found_mem_names isColumn
    · cases named

/-- **The names that are printed** for a table are its own and those of its columns. -/
theorem mem_ownNames_iff {made : List Statement} (stated : t.statements tables d options = .ok made)
    {name : String} : name ∈ made.flatMap (·.ownNames) ↔ name ∈ t.names := by
  obtain ⟨indexes, indexed, rfl⟩ := statements_eq_ok_iff.mp stated
  constructor
  · intro printed
    obtain ⟨statement, isStatement, own⟩ := List.mem_flatMap.mp printed
    rcases List.mem_append.mp isStatement with first | isIndex
    · rcases List.mem_cons.mp first with rfl | isComment
      · rcases List.mem_cons.mp own with rfl | ofDefinition
        · exact name_mem_names
        · obtain ⟨definition, member, own⟩ := List.mem_flatMap.mp ofDefinition
          exact mem_names_of_mem_definitions member own
      · exact mem_names_of_mem_commentStatements isComment own
    · obtain ⟨index, -, stated⟩ := Traversal.exists_of_forall₂ indexed isIndex
      exact mem_names_of_indexStatement stated own
  · intro isName
    -- Every name stands in the first statement already.
    refine List.mem_flatMap.mpr ⟨_, List.mem_append_left _ List.mem_cons_self, ?_⟩
    rcases List.mem_cons.mp isName with rfl | ofColumn
    · exact List.mem_cons_self
    · obtain ⟨c, isColumn, rfl⟩ := List.mem_map.mp ofColumn
      have defined : .column (c.definition d options (!t.hasCompositeKey) options.includeComments) ∈
          t.definitions tables d options :=
        List.mem_append_left _ (List.mem_append_left _ (List.mem_map_of_mem isColumn))
      exact List.mem_cons_of_mem _ (List.mem_flatMap.mpr ⟨_, defined, List.mem_singleton.mpr rfl⟩)

/-- **Every name of a table is printed** in the text that creates it. -/
theorem prints_createText {text : String} (written : t.createText tables d options = .ok text)
    {name : String} (isName : name ∈ t.names) : d.Prints name text := by
  obtain ⟨made, stated, rfl⟩ := Traversal.return_eq_ok_iff.mp written
  obtain ⟨statement, member, own⟩ := List.mem_flatMap.mp ((mem_ownNames_iff stated).mpr isName)
  exact (Statement.prints_ownNames own).intercalate _ (List.mem_map_of_mem member)

/-! ### Names of tables without errors -/

/-- **The names of a table without errors** are identifiers once their blanks are off. -/
theorem isValidIdentifier_of_mem_names (valid : t.errors d = []) {name : String}
    (isName : name ∈ t.names) : isValidIdentifier (Text.trim name) = true := by
  have legal := errors_eq_nil_iff_isLegal.mp valid
  rcases List.mem_cons.mp isName with rfl | ofColumn
  · exact isIdentifier_iff.mp legal.name
  · obtain ⟨c, isColumn, rfl⟩ := List.mem_map.mp ofColumn
    exact isIdentifier_iff.mp (legal.columns c isColumn).name

/-- **What is printed is what was checked, blanks aside.** A table that is generated without errors has
no reserved word for a name. Its name and those of its columns are printed between quotes; each of them
is an identifier once its blanks are off, and as it is printed exactly when it has no blanks at its ends.
No other names are printed for the table, and where it refers to itself it is by these. -/
theorem names_generate (clean : (t.generate tables d options).errors = []) :
    isReservedWord t.name = false ∧
      (∀ name ∈ t.names, d.Prints name (t.generate tables d options).sql ∧
        isValidIdentifier (Text.trim name) = true ∧
        (isValidIdentifier name = true ↔ Text.trim name = name)) ∧
      (∃ before made, t.statements tables d options = .ok made ∧
        (before = "" ∨ before = "PRAGMA foreign_keys = ON;\n") ∧
        (t.generate tables d options).sql =
          before ++ "\n".intercalate (made.map (·.render d options)) ∧
        ∀ name, name ∈ made.flatMap (·.ownNames) ↔ name ∈ t.names) ∧
      ∀ (r : Relationship) (ends : ResolvedRelationship), r.Joins t tables ends →
        ends.targetTable = t →
        ends.targetTable.name ∈ t.names ∧ ends.targetColumn.name ∈ t.names := by
  rw [errors_generate] at clean
  have valid := validate_errors_eq_nil_iff.mp clean
  refine ⟨?_, fun name isName => ?_, ?_, fun r ends joins isSelf => ?_⟩
  · exact isReservedWord_eq_false_of_trim (errors_eq_nil_iff_isLegal.mp valid).unreserved
  · have trimmed := isValidIdentifier_of_mem_names valid isName
    obtain ⟨before, text, -, written, generated⟩ := generate_of_valid clean tables options
    rw [generated]
    exact ⟨(prints_createText written isName).after before, trimmed,
      isValidIdentifier_iff_trim_eq trimmed⟩
  · obtain ⟨before, text, isPreamble, written, generated⟩ := generate_of_valid clean tables options
    obtain ⟨made, stated, rfl⟩ := Traversal.return_eq_ok_iff.mp written
    rw [generated]
    exact ⟨before, made, stated, isPreamble, rfl, fun name => mem_ownNames_iff stated⟩
  · have found := joins.target
    rw [isSelf] at found ⊢
    exact ⟨name_mem_names, found_mem_names found⟩

/-! ### Districts, and users with blanks -/

/-- Districts that are parts of others. -/
def districts : Table :=
  { id := "t", name := "districts",
    columns :=
      [ { id := "k", name := "id", dataType := .integer, nullable := false,
          constraints := [.primaryKey] },
        { id := "p", name := "part_of", dataType := .integer } ],
    relationships :=
      [ { id := "r", name := "", sourceTableId := "t", sourceColumnId := "p", targetTableId := "t",
          targetColumnId := "k" } ],
    indexes := [{ id := "i", name := "by_whole", columnIds := ["p"] }] }

theorem names_generate_districts :
    (districts.generate [districts] .sqlite {}).errors = [] ∧
      ∀ name ∈ ["districts", "id", "part_of"], isValidIdentifier name = true := by
  have clean : (districts.generate [districts] .sqlite {}).errors = [] := by decide +kernel
  obtain ⟨-, identifiers, -, -⟩ := names_generate clean
  refine ⟨clean, fun name isName => (identifiers name isName).2.2.mpr ?_⟩
  revert name
  decide +kernel

/-- Users with blanks around the names of the table and of a column. -/
def spacedUsers : Table :=
  { id := "t", name := " users ",
    columns :=
      [ { id := "k", name := "id", dataType := .integer, nullable := false,
          constraints := [.primaryKey] },
        { id := "n", name := "name ", dataType := .text } ] }

/-- The blanks pass the check and are printed, and then the names are no identifiers. -/
theorem names_generate_spacedUsers :
    (spacedUsers.generate [] .postgres {}).errors = [] ∧
      (spacedUsers.generate [] .postgres {}).sql =
        "CREATE TABLE IF NOT EXISTS \" users \" (\"id\" INTEGER NOT NULL PRIMARY KEY, \"name \" TEXT);" ∧
      isValidIdentifier " users " = false ∧ isValidIdentifier "name " = false := by
  decide +kernel

end Table

end SchemaCompiler
