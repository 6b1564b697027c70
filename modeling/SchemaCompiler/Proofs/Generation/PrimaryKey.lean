/-
**The primary key in the text of a table.**

Whether the key is a clause of its column or a definition behind all columns is decided for the table as a
whole; that the keyword and NOT NULL stand where they should is up to each dialect. In the text of a table
the key stands in one place: with its column when it has one column, and behind the columns when it has
several.

* `ColumnClause.render_eq_keyword_iff` — clauses are told apart by their first letters, so that a keyword
  in the text of a definition is the clause it looks like.
* `Table.primaryKey_mem_clauseTexts_iff`, `Table.map_render_keyDefinitions` — the two places.
* `Table.createText_primaryKey` — the contract.
-/

import SchemaCompiler.Proofs.Generation.Constraints

namespace SchemaCompiler

/-! ### Keywords -/

namespace ColumnClause

/-- The letters that a clause starts with. -/
def initials : ColumnClause → List Char
  | .unsigned => ['U', 'N', 'S']
  | .collate _ => ['C', 'O', 'L']
  | .notNull => ['N', 'O', 'T']
  | .default _ => ['D', 'E', 'F']
  | .onUpdate _ => ['O', 'N', ' ']
  | .autoIncrement => ['A', 'U', 'T']
  | .primaryKey => ['P', 'R', 'I']
  | .unique => ['U', 'N', 'I']
  | .check _ => ['C', 'H', 'E']
  | .comment _ => ['C', 'O', 'M']

/-- A clause that holds nothing that was entered. -/
def isKeyword : ColumnClause → Bool
  | .unsigned | .notNull | .autoIncrement | .primaryKey | .unique => true
  | _ => false

/-- A clause starts with its initials in every dialect. -/
theorem take_render (d : Dialect) (clause : ColumnClause) :
    (clause.render d).toList.take 3 = clause.initials := by
  cases clause with
  | autoIncrement => cases d <;> decide
  | _ => simp [render, initials]

/-- **A keyword is told apart** from every other clause by its text. -/
theorem render_eq_keyword_iff {d : Dialect} {clause keyword : ColumnClause}
    (isKeyword : keyword.isKeyword = true) :
    clause.render d = keyword.render d ↔ clause = keyword := by
  constructor
  · intro same
    have sameInitials : clause.initials = keyword.initials := by
      rw [← take_render d, ← take_render d, same]
    cases keyword with
    | unsigned | notNull | autoIncrement | primaryKey | unique =>
      cases clause <;> first | rfl | simp [initials] at sameInitials
    | _ => cases isKeyword
  · rintro rfl
    rfl

end ColumnClause

namespace Table

variable {t : Table} {tables : List Table} {d : Dialect} {options : GenerateOptions} {c : Column}

/-- A keyword stands in the definition of a column when it is one of its clauses. -/
theorem keyword_mem_clauseTexts_iff (keyword : ColumnClause) (isKeyword : keyword.isKeyword = true) :
    keyword.render d ∈ t.clauseTexts d options c ↔
      keyword ∈ c.clauses d (!t.hasCompositeKey) options.includeComments := by
  simp only [clauseTexts, List.mem_map, ColumnClause.render_eq_keyword_iff isKeyword,
    exists_eq_right]

/-! ### The key with its column -/

theorem hasCompositeKey_iff : t.hasCompositeKey = true ↔ 1 < t.primaryKey.length := by
  rw [hasCompositeKey, decide_eq_true_eq]

/-- A part of an inline key is all of the key. -/
theorem inlineKey_iff (isColumn : c ∈ t.columns) :
    (!t.hasCompositeKey) = true ∧ c.isPrimaryKey = true ↔ t.primaryKey = [c] := by
  rw [Bool.not_eq_true', ← Bool.not_eq_true, hasCompositeKey_iff]
  constructor
  · rintro ⟨atMostOne, isKey⟩
    have inKey : c ∈ t.primaryKey := List.mem_filter.mpr ⟨isColumn, isKey⟩
    obtain ⟨sole, isSole⟩ : ∃ sole, t.primaryKey = [sole] :=
      List.length_eq_one_iff.mp (by have := List.length_pos_of_mem inKey; omega)
    rw [isSole, List.mem_singleton] at inKey
    rw [isSole, inKey]
  · intro sole
    have inKey : c ∈ t.primaryKey := by rw [sole]; exact List.mem_singleton_self c
    exact ⟨by simp [sole], (List.mem_filter.mp inKey).2⟩

/-- **The keyword stands with a column** exactly when the column is the only one of the key. -/
theorem primaryKey_mem_clauseTexts_iff (isColumn : c ∈ t.columns) :
    "PRIMARY KEY" ∈ t.clauseTexts d options c ↔ t.primaryKey = [c] :=
  (keyword_mem_clauseTexts_iff .primaryKey rfl).trans
    (Column.primaryKey_mem_clauses.trans (inlineKey_iff isColumn))

theorem primaryKey_notMem_clauseTexts (notSole : t.primaryKey ≠ [c]) (isColumn : c ∈ t.columns) :
    "PRIMARY KEY" ∉ t.clauseTexts d options c :=
  mt (primaryKey_mem_clauseTexts_iff isColumn).mp notSole

/-- A part of the key is not null. -/
theorem notNull_mem_clauseTexts (inKey : c ∈ t.primaryKey) :
    "NOT NULL" ∈ t.clauseTexts d options c := by
  have isNotNull : c.isNotNull = true := by
    simp [Column.isNotNull, (List.mem_filter.mp inKey).2]
  exact mem_clauseTexts (Column.notNull_mem_clauses.mpr isNotNull)

/-! ### The key behind the columns -/

/-- The definition of a key of several columns: its name without the blanks at its ends, if anything is
left of it, and the names of its columns in order. -/
def keyText (t : Table) (d : Dialect) : String :=
  (match t.keyName? with
    | some name => "CONSTRAINT " ++ d.quoteIdentifier name ++ " "
    | none => "") ++
  "PRIMARY KEY (" ++ ", ".intercalate (t.primaryKey.map fun c => d.quoteIdentifier c.name) ++ ")"

theorem render_primaryKey (t : Table) (d : Dialect) (options : GenerateOptions) :
    (Definition.primaryKey t.keyName? (t.primaryKey.map (·.name))).render d options =
      t.keyText d := by
  have columns : "PRIMARY KEY " ++ nameList d (t.primaryKey.map (·.name)) =
      "PRIMARY KEY (" ++ ", ".intercalate (t.primaryKey.map fun c => d.quoteIdentifier c.name) ++
        ")" := by
    rw [nameList, List.map_map, ← String.append_assoc, ← String.append_assoc]
    rfl
  unfold Definition.render keyText
  cases t.keyName? with
  | none =>
    rw [String.append_assoc, String.empty_append, ← String.append_assoc]
    exact columns
  | some name =>
    simp only [columns, String.append_assoc]

/-- **The key stands behind the columns** exactly when it has several of them. -/
theorem map_render_keyDefinitions :
    t.keyDefinitions.map (·.render d options) =
      if 1 < t.primaryKey.length then [t.keyText d] else [] := by
  unfold keyDefinitions
  by_cases several : 1 < t.primaryKey.length
  · rw [if_pos (hasCompositeKey_iff.mpr several), if_pos several, List.map_singleton,
      render_primaryKey]
  · rw [if_neg (mt hasCompositeKey_iff.mp several), if_neg several, List.map_nil]

/-! ### The text of a table -/

/-- The text of the definition of a column: its name, its type and its clauses. -/
def columnText (t : Table) (d : Dialect) (options : GenerateOptions) (c : Column) : String :=
  " ".intercalate (d.quoteIdentifier c.name :: d.typeName options c :: t.clauseTexts d options c)

/-- **Where the primary key stands**, given the clauses of each column and the keys that stand between
the columns and the foreign keys. A key without columns stands nowhere, a key of one column with this
column, and a key of several columns in one definition, which names them in order. All columns of the key
are not null. -/
structure KeyIsWritten (t : Table) (d : Dialect) (clauses : Column → List String)
    (keys : List String) : Prop where
  none : t.primaryKey = [] → keys = [] ∧ ∀ c ∈ t.columns, "PRIMARY KEY" ∉ clauses c
  sole : ∀ c, t.primaryKey = [c] → keys = [] ∧ "PRIMARY KEY" ∈ clauses c ∧
    ∀ other ∈ t.columns, other ≠ c → "PRIMARY KEY" ∉ clauses other
  several : 1 < t.primaryKey.length →
    keys = [t.keyText d] ∧ ∀ c ∈ t.columns, "PRIMARY KEY" ∉ clauses c
  notNull : ∀ c ∈ t.primaryKey, "NOT NULL" ∈ clauses c

theorem keyIsWritten (t : Table) (d : Dialect) (options : GenerateOptions) :
    t.KeyIsWritten d (t.clauseTexts d options) (t.keyDefinitions.map (·.render d options)) where
  none := by
    intro empty
    rw [map_render_keyDefinitions, if_neg (by simp [empty])]
    exact ⟨rfl, fun c => primaryKey_notMem_clauseTexts (by simp [empty])⟩
  sole := by
    intro c sole
    have inKey : c ∈ t.primaryKey := by rw [sole]; exact List.mem_singleton_self c
    rw [map_render_keyDefinitions, if_neg (by simp [sole])]
    refine ⟨rfl, (primaryKey_mem_clauseTexts_iff (List.mem_filter.mp inKey).1).mpr sole, ?_⟩
    intro other isColumn differs
    exact primaryKey_notMem_clauseTexts (by simpa [sole] using differs.symm) isColumn
  several := by
    intro several
    rw [map_render_keyDefinitions, if_pos several]
    refine ⟨rfl, fun c => primaryKey_notMem_clauseTexts ?_⟩
    intro sole
    simp [sole] at several
  notNull := fun c => notNull_mem_clauseTexts

/-- **The primary key is written once**, in the place for it. The text of a table lists, between its
parentheses, the definitions of its columns, the key if it has several columns, and the foreign keys, with
commas between them (`inParentheses_pretty`, `inParentheses_plain`). -/
theorem createText_primaryKey {text : String} (written : t.createText tables d options = .ok text) :
    ∃ keys after, text =
        "CREATE TABLE " ++ (if options.ifNotExists then "IF NOT EXISTS " else "") ++
          d.tableName options t.name ++
          inParentheses options.pretty (t.columns.map (t.columnText d options) ++ keys ++
            (t.foreignKeys tables).map (·.render d options)) ++ after ∧
      t.KeyIsWritten d (t.clauseTexts d options) keys := by
  obtain ⟨after, whole⟩ := exists_createText_eq written
  have parts : (t.definitions tables d options).map (·.render d options) =
      t.columns.map (t.columnText d options) ++ t.keyDefinitions.map (·.render d options) ++
        (t.foreignKeys tables).map (·.render d options) := by
    rw [map_render_definitions, laterTexts, List.map_append, List.map_map, List.append_assoc]
    rfl
  rw [parts] at whole
  exact ⟨_, after, whole, t.keyIsWritten d options⟩

/-! ### A named key of two columns -/

/-- The purchases that lines belong to. -/
def purchases : Table :=
  { id := "p", name := "purchases",
    columns :=
      [ { id := "k", name := "id", dataType := .integer, nullable := false,
          constraints := [.primaryKey] } ] }

/-- Lines of purchases. Their key has a name with blanks around it, it leaves a column out, and one of its
columns is entered as nullable. -/
def purchaseLines : Table :=
  { id := "l", name := "purchase_lines",
    columns :=
      [ { id := "o", name := "purchase_id", dataType := .integer, nullable := true,
          constraints := [.primaryKey] },
        { id := "q", name := "quantity", dataType := .integer },
        { id := "n", name := "line", dataType := .integer, nullable := false,
          constraints := [.notNull, .primaryKey] } ],
    compositeKeyName := some " pk_lines ",
    relationships :=
      [ { id := "r", name := "of_purchase", sourceTableId := "l", sourceColumnId := "o",
          targetTableId := "p", targetColumnId := "k" } ] }

theorem createText_primaryKey_purchaseLines :
    ∃ text keys after, purchaseLines.createText [purchases, purchaseLines] .mysql {} = .ok text ∧
      text = "CREATE TABLE IF NOT EXISTS `purchase_lines`" ++ inParentheses false
        (purchaseLines.columns.map (purchaseLines.columnText .mysql {}) ++ keys ++
          ["CONSTRAINT `of_purchase` FOREIGN KEY (`purchase_id`) REFERENCES `purchases` (`id`)"]) ++
        after ∧
      keys = ["CONSTRAINT `pk_lines` PRIMARY KEY (`purchase_id`, `line`)"] ∧
      purchaseLines.columns.map (purchaseLines.clauseTexts .mysql {}) =
        [["NOT NULL"], [], ["NOT NULL"]] := by
  have valid : purchaseLines.errors .mysql = [] := by decide
  obtain ⟨text, written⟩ := exists_createText valid [purchases, purchaseLines] .mysql {}
  obtain ⟨keys, after, whole, isWritten⟩ := createText_primaryKey written
  have foreignKeys : (purchaseLines.foreignKeys [purchases, purchaseLines]).map (·.render .mysql {}) =
      ["CONSTRAINT `of_purchase` FOREIGN KEY (`purchase_id`) REFERENCES `purchases` (`id`)"] := by
    decide +kernel
  rw [foreignKeys] at whole
  refine ⟨text, keys, after, written, whole, ?_, by decide +kernel⟩
  rw [(isWritten.several (by decide)).1]
  decide +kernel

end Table

end SchemaCompiler
