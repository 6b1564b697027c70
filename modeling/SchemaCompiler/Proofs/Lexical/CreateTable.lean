/-
**The statements that make a table.**

Nearly all that a user enters for a table is written between quotes, as a number or as one of a few
words. Overrides of columns, checks, defaults in parentheses and the table options of MySQL stand as
they were entered. Where these hold nothing that means something to a reader, each statement ends
with the semicolon that is written after it, and with no other.

* `Dialect.inert_typeName`, `ColumnClause.inert_render`, `Column.inert_definition` — columns.
* `Statement.carries_createTable`, `Statement.carries_createIndex` — statements.
* `Table.createText_semicolons` — the text of a table has a semicolon for each of its statements.
-/

import SchemaCompiler.Proofs.Generation.CreateText
import SchemaCompiler.Proofs.Lexical.Numeral

namespace SchemaCompiler

open Dialect

variable {d : Dialect}

/-! ### Type names -/

section TypeNames

namespace Dialect

theorem inert_toString_uint32 (n : UInt32) : d.Inert (toString n) :=
  inert_toString_nat n.toNat

theorem inert_lengthened {name : String} (plain : name.toList.all isPlain = true)
    (length : Option UInt32) : d.Inert (lengthened name length) := by
  cases length with
  | none => exact inert_of_plain plain
  | some length =>
    have opened : d.Inert (name ++ "(") := (inert_of_plain plain).append_plain (by decide)
    exact (opened.append (inert_toString_uint32 length)).append_plain (by decide)

theorem inert_precisionSuffix (c : Column) : d.Inert (precisionSuffix c) := by
  have opening (precision : UInt32) : d.Inert ("(" ++ toString precision) :=
    .plain_append (by decide) (inert_toString_uint32 precision)
  unfold precisionSuffix
  split
  · rename_i precision scale _ _
    have both : d.Inert ("(" ++ toString precision ++ "," ++ toString scale) :=
      ((opening precision).append_plain (by decide)).append (inert_toString_uint32 scale)
    exact both.append_plain (by decide)
  · rename_i precision _ _
    exact (opening precision).append_plain (by decide)
  · exact Inert.empty

theorem inert_mysqlTypeName (c : Column) : d.Inert (mysqlTypeName c) := by
  unfold mysqlTypeName
  cases c.dataType with
  | decimal | numeric => exact .plain_append (by decide) (inert_precisionSuffix c)
  | char | varchar | binary | varBinary => exact inert_lengthened (by decide) _
  | _ =>
    dsimp only
    exact inert_of_plain (by decide)

theorem inert_postgresTypeName (c : Column) : d.Inert (postgresTypeName c) := by
  unfold postgresTypeName
  cases c.dataType with
  | decimal | numeric => exact .plain_append (by decide) (inert_precisionSuffix c)
  | char | varchar => exact inert_lengthened (by decide) _
  | _ =>
    dsimp only
    exact inert_of_plain (by decide)

theorem inert_sqliteTypeName (strict : Bool) (type : DataType) :
    d.Inert (sqliteTypeName strict type) := by
  cases strict <;> cases type <;> exact inert_of_plain (by decide)

/-- The name of a type is inert, unless another one was entered. -/
theorem inert_typeName {options : GenerateOptions} {c : Column}
    (noOverride : c.extension? d "type" = none) : d.Inert (d.typeName options c) := by
  unfold typeName
  rw [noOverride, Option.getD_none]
  cases d with
  | mysql => exact inert_mysqlTypeName c
  | postgres => exact inert_postgresTypeName c
  | sqlite => exact inert_sqliteTypeName _ c.dataType

end Dialect

end TypeNames

/-! ### Columns -/

section Columns

theorem Dialect.inert_functionText {function text : String}
    (spelled : d.functionText? function = some text) : d.Inert text := by
  unfold functionText? at spelled
  split at spelled
  all_goals simp only [Option.some.injEq, reduceCtorEq] at spelled
  all_goals subst spelled
  all_goals exact inert_of_plain (by decide)

/-- A default is inert, unless it is an expression. -/
theorem Dialect.inert_defaultLiteral {c : Column} {operand : String}
    (noExpression : ∀ text, c.default? = some text → Literal.isExpression text = false)
    (written : d.defaultLiteral? c = some operand) : d.Inert operand := by
  obtain ⟨text, entered, rfl⟩ := Option.map_eq_some_iff.mp written
  rw [noExpression text entered, if_neg Bool.false_ne_true]
  split
  · exact inert_of_plain (by decide)
  · split
    · rename_i function _
      cases spelled : d.functionText? function with
      | none => exact inert_stringLiteral text
      | some sql => exact inert_functionText spelled
    · exact inert_textLiteral _ _

/-- What a clause holds as it was entered. -/
def ColumnClause.verbatim : ColumnClause → List String
  | .collate collation => [collation]
  | .default operand => [operand]
  | .onUpdate expression => [expression]
  | .check expression => [expression]
  | _ => []

/-- A clause is inert when all that it holds as it was entered is. -/
theorem ColumnClause.inert_render {clause : ColumnClause}
    (inert : ∀ text ∈ clause.verbatim, d.Inert text) : d.Inert (clause.render d) := by
  cases clause with
  | unsigned | notNull | primaryKey | unique =>
    rw [render]
    exact inert_of_plain (by decide)
  | autoIncrement =>
    exact Inert.ite (inert_of_plain (by decide)) (inert_of_plain (by decide))
  | collate collation =>
    exact Inert.plain_append (by decide)
      (.ite (inert_quoteIdentifier collation) (inert collation List.mem_cons_self))
  | default operand =>
    exact Inert.plain_append (by decide) (inert operand List.mem_cons_self)
  | onUpdate expression =>
    exact Inert.plain_append (by decide) (inert expression List.mem_cons_self)
  | check expression =>
    exact Inert.between (by decide) (inert expression List.mem_cons_self) (by decide)
  | comment text => exact Inert.plain_append (by decide) (inert_stringLiteral text)

/-- Nothing of a column is written as it was entered: no override replaces a part of its definition,
it has no checks, and its default is no expression. -/
structure Column.IsGuarded (c : Column) (d : Dialect) : Prop where
  overrides : ∀ key ∈ ["type", "collate", "onUpdate"], c.extension? d key = none
  checks : c.checkExpressions = []
  default : ∀ text, c.default? = some text → Literal.isExpression text = false

namespace Column.IsGuarded

variable {c : Column}

/-- Only the default of the column can stand in its clauses as it was entered. -/
theorem verbatim_eq_nil_or_mem (guarded : c.IsGuarded d) {inlineKey comments : Bool}
    {clause : ColumnClause} (member : clause ∈ c.clauses d inlineKey comments) :
    clause.verbatim = [] ∨ clause ∈ c.defaultClause d := by
  have noCollation : c.extension? d "collate" = none := guarded.overrides _ (by decide)
  have noUpdate : c.extension? d "onUpdate" = none := guarded.overrides _ (by decide)
  have commentOnly {clause : ColumnClause}
      (member : clause ∈ if comments then c.comment.toList.map .comment else []) :
      clause.verbatim = [] := by
    split at member
    · obtain ⟨text, -, rfl⟩ := List.mem_map.mp member
      rfl
    · cases member
  cases d with
  | mysql =>
    simp only [Column.clauses, Column.collateClause, noCollation, noUpdate, Option.toList_none,
      List.map_nil, List.append_nil, List.mem_append, mem_when, or_assoc] at member
    rcases member with ⟨-, rfl⟩ | ⟨-, rfl⟩ | isDefault | ⟨-, rfl⟩ | ⟨-, rfl⟩ | ⟨-, rfl⟩ | isComment
    · exact .inl rfl
    · exact .inl rfl
    · exact .inr isDefault
    · exact .inl rfl
    · exact .inl rfl
    · exact .inl rfl
    · exact .inl (commentOnly isComment)
  | postgres | sqlite =>
    simp only [Column.clauses, Column.collateClause, noCollation, guarded.checks,
      Option.toList_none, List.map_nil, List.append_nil, List.nil_append, List.mem_append, mem_when,
      or_assoc] at member
    rcases member with ⟨-, rfl⟩ | isDefault | ⟨-, rfl⟩ | ⟨-, rfl⟩
    · exact .inl rfl
    · exact .inr isDefault
    · exact .inl rfl
    · exact .inl rfl

theorem inert_of_mem_clauses (guarded : c.IsGuarded d) {inlineKey comments : Bool}
    {clause : ColumnClause} (member : clause ∈ c.clauses d inlineKey comments) :
    d.Inert (clause.render d) := by
  refine ColumnClause.inert_render fun text isVerbatim => ?_
  rcases guarded.verbatim_eq_nil_or_mem member with none | isDefault
  · rw [none] at isVerbatim
    cases isVerbatim
  · obtain ⟨operand, written, rfl⟩ := List.mem_map.mp isDefault
    rw [List.mem_singleton.mp isVerbatim]
    exact inert_defaultLiteral guarded.default (Option.mem_toList.mp written)

theorem inert_definition (guarded : c.IsGuarded d) (options : GenerateOptions)
    (inlineKey comments : Bool) :
    d.Inert ((c.definition d options inlineKey comments).render d) := by
  refine Inert.intercalate (inert_of_plain (by decide)) fun part member => ?_
  simp only [Column.definition, List.mem_cons, List.mem_map] at member
  rcases member with rfl | rfl | ⟨clause, isClause, rfl⟩
  · exact inert_quoteIdentifier c.name
  · exact inert_typeName (guarded.overrides _ (by decide))
  · exact guarded.inert_of_mem_clauses isClause

end Column.IsGuarded

end Columns

/-! ### Definitions -/

section Definitions

theorem inert_nameList (names : List String) : d.Inert (nameList d names) := by
  have joined : d.Inert (", ".intercalate (names.map d.quoteIdentifier)) :=
    .intercalate_map (by decide) fun name _ => inert_quoteIdentifier name
  exact .between (by decide) joined (by decide)

theorem inert_actionText {event : String} (plain : event.toList.all isPlain = true)
    (action : ReferentialAction) : d.Inert (actionText event action) := by
  refine Inert.ite Inert.empty (Inert.plain_append plain ?_)
  cases action <;> exact inert_of_plain (by decide)

theorem ForeignKey.inert_render (key : ForeignKey) (options : GenerateOptions) :
    d.Inert (key.render d options) := by
  have named : d.Inert ("CONSTRAINT " ++ d.quoteIdentifier key.name ++ " FOREIGN KEY (") :=
    .between (by decide) (inert_quoteIdentifier key.name) (by decide)
  have source := (named.append (inert_quoteIdentifier key.sourceColumn)).append_plain
    (show ") REFERENCES ".toList.all isPlain = true by decide)
  have target := (source.append (inert_tableName options key.targetTable)).append_plain
    (show " (".toList.all isPlain = true by decide)
  have column := (target.append (inert_quoteIdentifier key.targetColumn)).append_plain
    (show ")".toList.all isPlain = true by decide)
  exact (column.append (inert_actionText (by decide) key.onDelete)).append
    (inert_actionText (by decide) key.onUpdate)

/-- A definition is inert when it is not that of a column, or when that one is. -/
theorem Definition.inert_render {definition : Definition} {options : GenerateOptions}
    (columns : ∀ column, definition = .column column → d.Inert (column.render d)) :
    d.Inert (definition.render d options) := by
  cases definition with
  | column column => exact columns column rfl
  | primaryKey name names =>
    have key : d.Inert ("PRIMARY KEY " ++ nameList d names) :=
      .plain_append (by decide) (inert_nameList names)
    cases name with
    | none => exact key
    | some name =>
      have named : d.Inert ("CONSTRAINT " ++ d.quoteIdentifier name ++ " ") :=
        .between (by decide) (inert_quoteIdentifier name) (by decide)
      exact named.append key
  | foreignKey key => exact key.inert_render options

theorem inert_inParentheses {pretty : Bool} {parts : List String}
    (each : ∀ part ∈ parts, d.Inert part) : d.Inert (inParentheses pretty parts) := by
  cases pretty with
  | true =>
    rw [inParentheses_pretty]
    exact .between (by decide) (.intercalate (inert_of_plain (by decide)) each) (by decide)
  | false =>
    rw [inParentheses_plain]
    exact .between (by decide) (.intercalate (inert_of_plain (by decide)) each) (by decide)

end Definitions

/-! ### Statements -/

section Statements

namespace Statement

variable {options : GenerateOptions}

theorem carries_createTable {table : String} {definitions : List Definition}
    {tableOptions : List String}
    (definitionsInert : ∀ definition ∈ definitions, d.Inert (definition.render d options))
    (optionsInert : ∀ option ∈ tableOptions, d.Inert option) :
    d.Carries 1 ((createTable table definitions tableOptions).render d options) := by
  have condition : d.Inert (if options.ifNotExists then "IF NOT EXISTS " else "") :=
    .ite (inert_of_plain (by decide)) Inert.empty
  have inside : d.Inert
      (inParentheses options.pretty (definitions.map (·.render d options))) := by
    refine inert_inParentheses fun part member => ?_
    obtain ⟨definition, isDefinition, rfl⟩ := List.mem_map.mp member
    exact definitionsInert definition isDefinition
  have after : d.Inert (String.join (tableOptions.map (" " ++ ·))) :=
    .join_map fun option isOption => .plain_append (by decide) (optionsInert option isOption)
  have named := (Inert.plain_append (show "CREATE TABLE ".toList.all isPlain = true by decide)
    condition).append (inert_tableName options table)
  exact ((named.append inside).append after).terminated

theorem carries_commentOnTable (table comment : String) :
    d.Carries 1 ((commentOnTable table comment).render d options) := by
  have named : d.Inert ("COMMENT ON TABLE " ++ d.tableName options table ++ " IS ") :=
    .between (by decide) (inert_tableName options table) (by decide)
  exact (named.append (inert_stringLiteral comment)).terminated

theorem carries_commentOnColumn (table column comment : String) :
    d.Carries 1 ((commentOnColumn table column comment).render d options) := by
  have named : d.Inert ("COMMENT ON COLUMN " ++ d.tableName options table ++ ".") :=
    .between (by decide) (inert_tableName options table) (by decide)
  have qualified := (named.append (inert_quoteIdentifier column)).append_plain
    (show " IS ".toList.all isPlain = true by decide)
  exact (qualified.append (inert_stringLiteral comment)).terminated

theorem carries_createIndex (unique : Bool) (name table : String) (columns : List String) :
    d.Carries 1 ((createIndex unique name table columns).render d options) := by
  have kind : d.Inert (if unique then "UNIQUE " else "") :=
    .ite (inert_of_plain (by decide)) Inert.empty
  have condition : d.Inert
      (if options.ifNotExists && d.indexIfNotExists then "IF NOT EXISTS " else "") :=
    .ite (inert_of_plain (by decide)) Inert.empty
  have opening : d.Inert ("CREATE " ++ (if unique then "UNIQUE " else "") ++ "INDEX ") :=
    .between (by decide) kind (by decide)
  have named := ((opening.append condition).append (inert_quoteIdentifier name)).append_plain
    (show " ON ".toList.all isPlain = true by decide)
  have placed := (named.append (inert_tableName options table)).append_plain
    (show " ".toList.all isPlain = true by decide)
  exact (placed.append (inert_nameList columns)).terminated

end Statement

end Statements

/-! ### Tables -/

section Tables

/-- A letter, a digit or an underscore; all that is not ASCII counts as a letter. -/
def inWord (c : Char) : Bool :=
  c.isAlphanum || c = '_' || 0x80 ≤ c.toNat

namespace Table

/-- Nothing of a table is written as it was entered, except that the table options of MySQL are
words. -/
structure IsGuarded (t : Table) (d : Dialect) (options : GenerateOptions) : Prop where
  columns : ∀ c ∈ t.columns, c.IsGuarded d
  words : d = .mysql → ∀ word ∈ options.mysql.engine.toList ++ options.mysql.charset.toList ++
    options.mysql.collation.toList, word.toList.all inWord = true

variable {t : Table} {options : GenerateOptions}

theorem inert_of_mem_optionTexts (guarded : t.IsGuarded d options) {text : String}
    (member : text ∈ t.optionTexts d options) : d.Inert text := by
  cases d with
  | mysql =>
    have inertWord {word : String} (isWord : word.toList.all inWord = true) : mysql.Inert word :=
      inert_of_plain (List.all_eq_true.mpr fun c inText =>
        isPlain_of inWord (by decide) (List.all_eq_true.mp isWord c inText))
    have words := guarded.words rfl
    simp only [List.forall_mem_append] at words
    simp only [optionTexts, List.mem_append, List.mem_map] at member
    rcases member with ((⟨word, isEngine, rfl⟩ | ⟨word, isCharset, rfl⟩) | ⟨word, isCollation, rfl⟩) |
      isComment
    · exact .plain_append (by decide) (inertWord (words.1.1 word isEngine))
    · exact .plain_append (by decide) (inertWord (words.1.2 word isCharset))
    · exact .plain_append (by decide) (inertWord (words.2 word isCollation))
    · split at isComment
      · obtain ⟨comment, -, rfl⟩ := List.mem_map.mp isComment
        exact .plain_append (by decide) (inert_stringLiteral comment)
      · cases isComment
  | postgres => cases member
  | sqlite =>
    unfold optionTexts at member
    dsimp only at member
    split at member
    · rw [List.mem_singleton.mp member]
      exact inert_of_plain (by decide)
    · cases member

theorem inert_of_mem_definitions (guarded : t.IsGuarded d options) {tables : List Table}
    {definition : Definition} (member : definition ∈ t.definitions tables d options) :
    d.Inert (definition.render d options) := by
  refine Definition.inert_render fun column isColumn => ?_
  subst isColumn
  simp only [definitions, columnDefinitions, List.mem_append, List.mem_map] at member
  rcases member with (⟨c, isColumn, same⟩ | isKey) | ⟨key, -, same⟩
  · cases same
    exact (guarded.columns c isColumn).inert_definition options _ _
  · unfold keyDefinitions at isKey
    split at isKey
    · cases List.mem_singleton.mp isKey
    · cases isKey
  · cases same

theorem carries_of_mem_commentStatements {statement : Statement}
    (member : statement ∈ t.commentStatements d options) :
    d.Carries 1 (statement.render d options) := by
  unfold commentStatements at member
  split at member
  · simp only [List.mem_append, List.mem_map, List.mem_flatMap] at member
    rcases member with ⟨comment, -, rfl⟩ | ⟨c, -, comment, -, rfl⟩
    · exact Statement.carries_commentOnTable t.name comment
    · exact Statement.carries_commentOnColumn t.name c.name comment
  · cases member

theorem carries_of_indexStatement {index : Index} {statement : Statement}
    (written : t.indexStatement index = .ok statement) :
    d.Carries 1 (statement.render d options) := by
  obtain ⟨columns, -, rfl⟩ := Traversal.return_eq_ok_iff.mp written
  exact Statement.carries_createIndex index.unique index.name t.name columns

theorem length_of_statements {tables : List Table} {made : List Statement}
    (succeeds : t.statements tables d options = .ok made) :
    made.length = 1 + (t.commentStatements d options).length + t.indexes.length := by
  obtain ⟨indexes, indexed, rfl⟩ := statements_eq_ok_iff.mp succeeds
  rw [List.length_append, List.length_cons, ← indexed.length_eq, Nat.add_comm 1]

theorem carries_of_mem_statements (guarded : t.IsGuarded d options) {tables : List Table}
    {made : List Statement} (succeeds : t.statements tables d options = .ok made) :
    ∀ statement ∈ made, d.Carries 1 (statement.render d options) := by
  obtain ⟨indexes, indexed, rfl⟩ := statements_eq_ok_iff.mp succeeds
  intro statement isStatement
  rcases List.mem_append.mp isStatement with first | isIndex
  · rcases List.mem_cons.mp first with rfl | isComment
    · exact Statement.carries_createTable (fun _ => inert_of_mem_definitions guarded)
        fun _ => inert_of_mem_optionTexts guarded
    · exact carries_of_mem_commentStatements isComment
  · obtain ⟨index, -, made⟩ := Traversal.exists_of_forall₂ indexed isIndex
    exact carries_of_indexStatement made

/-- **The text of a table** ends one statement for the table, one for each comment that is a
statement of its own and one for each index, whatever its names, comments and defaults hold. -/
theorem createText_semicolons {tables : List Table} {text : String}
    (guarded : t.IsGuarded d options) (written : t.createText tables d options = .ok text) :
    d.Closes text ∧
      (d.bareText text).count ';' =
        1 + (t.commentStatements d options).length + t.indexes.length ∧
      ∀ opening ∈ commentOpenings, ¬ opening <:+: d.bareText text := by
  obtain ⟨made, succeeds, rfl⟩ := Traversal.return_eq_ok_iff.mp written
  have newline : d.Inert "\n" := inert_of_plain (by decide)
  -- Each statement carries the one semicolon it ends with, so their text has one for each of them.
  have script := Carries.intercalate newline fun text member => by
    obtain ⟨statement, isStatement, rfl⟩ := List.mem_map.mp member
    exact carries_of_mem_statements guarded succeeds statement isStatement
  refine ⟨script.closes, ?_, script.not_infix⟩
  rw [script.semicolons, List.length_map, length_of_statements succeeds]

/-! ### A table that tries to end its statements -/

/-- A table with marks, semicolons and openings of comments in its names, its default and its
comment. The quote in the default stands behind a backslash. -/
def smuggling : Table :=
  { id := "t", name := "t\"; --",
    columns :=
      [ { id := "c", name := "c`", dataType := .varchar, length := some 9,
          defaultText := some "\\'; DROP", comment := some "it's; #" } ],
    indexes := [{ id := "i", name := "i;", columnIds := ["c"] }] }

/-- Options with a schema that does the same. -/
def smugglingOptions : GenerateOptions :=
  { postgres := { schema := some "s;" } }

/-- The statements of that table for MySQL. -/
def smuggled : String :=
  "CREATE TABLE IF NOT EXISTS `t\"; --` " ++
    "(`c``` VARCHAR(9) DEFAULT '\\\\''; DROP' COMMENT 'it''s; #') " ++
    "ENGINE=InnoDB DEFAULT CHARSET=utf8mb4;\n" ++
    "CREATE INDEX `i;` ON `t\"; --` (`c```);"

theorem isGuarded_smuggling (d : Dialect) : smuggling.IsGuarded d smugglingOptions := by
  refine ⟨fun c member => ?_, fun _ => by decide⟩
  rw [List.mem_singleton.mp member]
  refine ⟨fun key _ => ?_, rfl, fun text entered => ?_⟩
  · cases d <;> rfl
  · cases entered
    decide

theorem createText_smuggling :
    smuggling.IsGuarded .mysql smugglingOptions ∧ smuggling.IsGuarded .postgres smugglingOptions ∧
      smuggling.createText [] .mysql smugglingOptions = .ok smuggled ∧
      mysql.Closes smuggled ∧ (mysql.bareText smuggled).count ';' = 2 ∧
      ∃ text, smuggling.createText [] .postgres smugglingOptions = .ok text ∧
        postgres.Closes text ∧ (postgres.bareText text).count ';' = 3 := by
  have written : smuggling.createText [] .mysql smugglingOptions = .ok smuggled := by
    decide +kernel
  obtain ⟨closes, count, -⟩ := createText_semicolons (isGuarded_smuggling .mysql) written
  obtain ⟨closesToo, countToo, -⟩ :=
    createText_semicolons (isGuarded_smuggling .postgres)
      (show smuggling.createText [] .postgres smugglingOptions = .ok _ from rfl)
  exact ⟨isGuarded_smuggling _, isGuarded_smuggling _, written, closes, count, _, rfl, closesToo,
    countToo⟩

end Table

end Tables

end SchemaCompiler
