/-
**Tables that are written alike.**

The statements of a table depend on less than the table itself. Of a column they show the name, the
definition and, where comments are wanted, the comment; the types, lengths and constraints behind
the definition do not matter. Databases that agree in what is shown have the same text.

* `Table.WrittenAlike` — tables that agree in what is shown.
* `Table.WrittenAlike.createText` — such tables have the same text, among others that are alike.
* `Table.WrittenAlike.skippedRelationships` — the same relationships are skipped.
* `Database.createTexts_of_alike` — so have databases, as the order of their tables is the same.
-/

import Mathlib.Data.List.Forall2
import SchemaCompiler.Generation.Statements

namespace SchemaCompiler

/-! ### Lists with related items -/

namespace Related

variable {α β γ : Type} {R : α → β → Prop} {xs : List α} {ys : List β}

theorem map_eq {f : α → γ} {g : β → γ} (related : List.Forall₂ R xs ys)
    (same : ∀ a b, R a b → f a = g b) : xs.map f = ys.map g := by
  induction related with
  | nil => rfl
  | cons atHead _ ih => rw [List.map_cons, List.map_cons, same _ _ atHead, ih]

theorem find? {p : α → Bool} {q : β → Bool} (related : List.Forall₂ R xs ys)
    (same : ∀ a b, R a b → p a = q b) : Option.Rel R (xs.find? p) (ys.find? q) := by
  induction related with
  | nil => exact .none
  | @cons a b _ _ atHead _ ih =>
    rw [List.find?_cons, List.find?_cons, ← same a b atHead]
    cases p a with
    | true => exact .some atHead
    | false => exact ih

theorem getElem? (related : List.Forall₂ R xs ys) (place : Nat) :
    Option.Rel R xs[place]? ys[place]? := by
  induction related generalizing place with
  | nil => exact .none
  | cons atHead _ ih =>
    cases place with
    | zero => exact .some atHead
    | succ place => exact ih place

theorem none_or_some {a : Option α} {b : Option β} (related : Option.Rel R a b) :
    a = none ∧ b = none ∨ ∃ x y, a = some x ∧ b = some y ∧ R x y := by
  cases related with
  | none => exact .inl ⟨rfl, rfl⟩
  | some both => exact .inr ⟨_, _, rfl, rfl, both⟩

theorem mapM_eq {ε : Type} {f : α → Except ε γ} {g : β → Except ε γ}
    (related : List.Forall₂ R xs ys) (same : ∀ a b, R a b → f a = g b) :
    xs.mapM f = ys.mapM g := by
  induction related with
  | nil => rfl
  | cons atHead _ ih => rw [List.mapM_cons, List.mapM_cons, same _ _ atHead, ih]

end Related

/-! ### Columns and tables -/

variable {d : Dialect} {options : GenerateOptions}

/-- Two columns that agree in what is shown of them. -/
structure Column.WrittenAlike (d : Dialect) (options : GenerateOptions) (c other : Column) :
    Prop where
  id : c.id = other.id
  name : c.name = other.name
  isPrimaryKey : c.isPrimaryKey = other.isPrimaryKey
  comment : options.includeComments = true → c.comment = other.comment
  definition : ∀ inlineKey,
    c.definition d options inlineKey options.includeComments =
      other.definition d options inlineKey options.includeComments

/-- **Two tables that agree in what is shown of them.** -/
structure Table.WrittenAlike (d : Dialect) (options : GenerateOptions) (t other : Table) :
    Prop where
  id : t.id = other.id
  name : t.name = other.name
  columns : List.Forall₂ (Column.WrittenAlike d options) t.columns other.columns
  relationships : t.relationships = other.relationships
  indexes : t.indexes = other.indexes
  keyName : t.keyName? = other.keyName?
  comment : options.includeComments = true → t.comment = other.comment

namespace Table.WrittenAlike

variable {t other : Table}

theorem columnById? (alike : t.WrittenAlike d options other) (id : String) :
    Option.Rel (Column.WrittenAlike d options) (t.columnById? id) (other.columnById? id) :=
  Related.find? alike.columns fun _ _ sameColumn => by rw [sameColumn.id]

theorem ownRelationships (alike : t.WrittenAlike d options other) :
    t.ownRelationships = other.ownRelationships := by
  rw [Table.ownRelationships, Table.ownRelationships, alike.relationships, alike.id]

/-! ### Keys -/

theorem primaryKey (alike : t.WrittenAlike d options other) :
    List.Forall₂ (Column.WrittenAlike d options) t.primaryKey other.primaryKey :=
  List.rel_filter (fun _ _ sameColumn => iff_of_eq (congrArg (· = true) sameColumn.isPrimaryKey))
    alike.columns

theorem hasCompositeKey (alike : t.WrittenAlike d options other) :
    t.hasCompositeKey = other.hasCompositeKey := by
  rw [Table.hasCompositeKey, Table.hasCompositeKey, alike.primaryKey.length_eq]

theorem keyDefinitions (alike : t.WrittenAlike d options other) :
    t.keyDefinitions = other.keyDefinitions := by
  have sameNames : t.primaryKey.map (·.name) = other.primaryKey.map (·.name) :=
    Related.map_eq alike.primaryKey fun _ _ sameColumn => sameColumn.name
  rw [Table.keyDefinitions, Table.keyDefinitions, alike.hasCompositeKey, alike.keyName, sameNames]

/-! ### Foreign keys -/

/-- A relationship refers to tables that are alike, or to none. -/
theorem target? {tables others : List Table} (alike : t.WrittenAlike d options other)
    (allAlike : List.Forall₂ (Table.WrittenAlike d options) tables others) (r : Relationship) :
    Option.Rel (Table.WrittenAlike d options) (r.target? t tables) (r.target? other others) := by
  have byId : Option.Rel (Table.WrittenAlike d options)
      (tableById? tables r.targetTableId) (tableById? others r.targetTableId) :=
    Related.find? allAlike fun _ _ sameTable => by rw [sameTable.id]
  unfold Relationship.target?
  rcases Related.none_or_some byId with ⟨missing, otherMissing⟩ | ⟨_, _, found, otherFound, same⟩
  · rw [missing, otherMissing, alike.id]
    by_cases self : r.targetTableId = other.id
    · rw [if_pos self, if_pos self]
      exact .some alike
    · rw [if_neg self, if_neg self]
      exact .none
  · rw [found, otherFound]
    exact .some same

/-- A relationship fails to resolve for the same reason, or resolves to the same foreign key. -/
theorem resolve {tables others : List Table} (alike : t.WrittenAlike d options other)
    (allAlike : List.Forall₂ (Table.WrittenAlike d options) tables others) (r : Relationship) :
    (∃ cause, r.resolve t tables = .error cause ∧ r.resolve other others = .error cause) ∨
      ∃ ends otherEnds, r.resolve t tables = .ok ends ∧ r.resolve other others = .ok otherEnds ∧
        t.foreignKeyOf r ends = other.foreignKeyOf r otherEnds := by
  unfold Relationship.resolve
  rcases Related.none_or_some (alike.columnById? r.sourceColumnId) with
    ⟨missing, otherMissing⟩ | ⟨source, otherSource, found, otherFound, sameSource⟩
  · rw [missing, otherMissing, alike.name]
    exact .inl ⟨_, rfl, rfl⟩
  rw [found, otherFound]
  dsimp only
  rcases Related.none_or_some (alike.target? allAlike r) with
    ⟨missing, otherMissing⟩ | ⟨target, otherTarget, found, otherFound, sameTarget⟩
  · rw [missing, otherMissing]
    exact .inl ⟨_, rfl, rfl⟩
  rw [found, otherFound]
  dsimp only
  rcases Related.none_or_some (sameTarget.columnById? r.targetColumnId) with
    ⟨missing, otherMissing⟩ | ⟨column, otherColumn, found, otherFound, sameColumn⟩
  · rw [missing, otherMissing, sameTarget.name]
    exact .inl ⟨_, rfl, rfl⟩
  rw [found, otherFound]
  refine .inr ⟨_, _, rfl, rfl, ?_⟩
  rw [Table.foreignKeyOf, Table.foreignKeyOf, alike.name, sameSource.name, sameTarget.name,
    sameColumn.name]

theorem foreignKeys {tables others : List Table} (alike : t.WrittenAlike d options other)
    (allAlike : List.Forall₂ (Table.WrittenAlike d options) tables others) :
    t.foreignKeys tables = other.foreignKeys others := by
  rw [Table.foreignKeys, Table.foreignKeys, alike.ownRelationships]
  congr 1
  funext r
  rcases alike.resolve allAlike r with ⟨_, fails, otherFails⟩ | ⟨_, _, found, otherFound, sameKey⟩
  · rw [fails, otherFails]
  · rw [found, otherFound]
    exact congrArg some sameKey

theorem skippedRelationships {tables others : List Table} (alike : t.WrittenAlike d options other)
    (allAlike : List.Forall₂ (Table.WrittenAlike d options) tables others) :
    t.skippedRelationships tables = other.skippedRelationships others := by
  rw [Table.skippedRelationships, Table.skippedRelationships, alike.ownRelationships]
  congr 1
  funext r
  rcases alike.resolve allAlike r with ⟨_, fails, otherFails⟩ | ⟨_, _, found, otherFound, -⟩
  · rw [fails, otherFails]
  · rw [found, otherFound]

/-! ### Statements -/

theorem definitions {tables others : List Table} (alike : t.WrittenAlike d options other)
    (allAlike : List.Forall₂ (Table.WrittenAlike d options) tables others) :
    t.definitions tables d options = other.definitions others d options := by
  have sameColumns : t.columnDefinitions d options = other.columnDefinitions d options := by
    rw [Table.columnDefinitions, Table.columnDefinitions, alike.hasCompositeKey]
    refine Related.map_eq alike.columns fun c otherColumn sameColumn => ?_
    rw [sameColumn.definition]
  rw [Table.definitions, Table.definitions, sameColumns, alike.keyDefinitions,
    alike.foreignKeys allAlike]

theorem optionTexts (alike : t.WrittenAlike d options other) :
    t.optionTexts d options = other.optionTexts d options := by
  cases d with
  | mysql =>
    unfold Table.optionTexts
    by_cases wanted : options.includeComments = true
    · rw [alike.comment wanted]
    · rw [if_neg wanted, if_neg wanted]
  | postgres => rfl
  | sqlite => rfl

theorem commentStatements (alike : t.WrittenAlike d options other) :
    t.commentStatements d options = other.commentStatements d options := by
  unfold Table.commentStatements
  by_cases wanted : d = .postgres ∧ options.includeComments = true
  · have ofColumns := Related.map_eq alike.columns fun c otherColumn sameColumn =>
      show c.comment.toList.map (Statement.commentOnColumn t.name c.name) =
          otherColumn.comment.toList.map (.commentOnColumn t.name otherColumn.name) by
        rw [sameColumn.comment wanted.2, sameColumn.name]
    rw [if_pos wanted, if_pos wanted, alike.comment wanted.2, List.flatMap_def, ofColumns,
      alike.name, List.flatMap_def]
  · rw [if_neg wanted, if_neg wanted]

theorem indexStatement (alike : t.WrittenAlike d options other) (index : Index) :
    t.indexStatement index = other.indexStatement index := by
  unfold Table.indexStatement
  rw [alike.name]
  congr 2
  funext id
  rcases Related.none_or_some (alike.columnById? id) with
    ⟨missing, otherMissing⟩ | ⟨c, _, found, otherFound, sameColumn⟩
  · rw [missing, otherMissing]
  · rw [found, otherFound]
    exact congrArg Except.ok sameColumn.name

/-- **Tables that are written alike have the same text.** -/
theorem createText {tables others : List Table} (alike : t.WrittenAlike d options other)
    (allAlike : List.Forall₂ (Table.WrittenAlike d options) tables others) :
    t.createText tables d options = other.createText others d options := by
  have sameIndexes : t.indexStatement = other.indexStatement :=
    funext alike.indexStatement
  have sameStatements : t.statements tables d options = other.statements others d options := by
    rw [Table.statements, Table.statements, alike.indexes, sameIndexes, alike.name,
      alike.definitions allAlike, alike.optionTexts, alike.commentStatements]
  rw [Table.createText, Table.createText, sameStatements]

end Table.WrittenAlike

/-! ### Databases -/

/-- Dependencies are the same where ids and relationships are. -/
theorem Dependency.dependencies_of_alike {tables others : List Table}
    (alike : List.Forall₂ (Table.WrittenAlike d options) tables others) :
    dependencies tables = dependencies others := by
  funext place
  have sameIds : tables.map (·.id) = others.map (·.id) :=
    Related.map_eq alike fun _ _ sameTable => sameTable.id
  have samePlaces : ∀ id, tables.findIdx? (·.id == id) = others.findIdx? (·.id == id) := by
    intro id
    have throughIds : ∀ ts : List Table,
        ts.findIdx? (·.id == id) = (ts.map (·.id)).findIdx? (· == id) := by
      intro ts
      rw [List.findIdx?_map]
      rfl
    rw [throughIds, throughIds, sameIds]
  unfold dependencies
  rcases Related.none_or_some (Related.getElem? alike place) with
    ⟨missing, otherMissing⟩ | ⟨t, _, found, otherFound, sameTable⟩
  · rw [missing, otherMissing]
  · simp only [found, otherFound, sameTable.ownRelationships, samePlaces, alike.length_eq]

theorem Dependency.dependencyOrder?_of_alike {tables others : List Table}
    (alike : List.Forall₂ (Table.WrittenAlike d options) tables others) :
    dependencyOrder? tables = dependencyOrder? others := by
  rw [dependencyOrder?, dependencyOrder?, dependencies_of_alike alike, alike.length_eq]

theorem Dependency.findCycle?_of_alike {tables others : List Table}
    (alike : List.Forall₂ (Table.WrittenAlike d options) tables others) :
    findCycle? tables = findCycle? others := by
  have sameNames : (fun place : Nat => (tables[place]?).map (·.name)) =
      fun place => (others[place]?).map (·.name) := by
    funext place
    rcases Related.none_or_some (Related.getElem? alike place) with
      ⟨missing, otherMissing⟩ | ⟨_, _, found, otherFound, sameTable⟩
    · rw [missing, otherMissing]
    · rw [found, otherFound]
      exact congrArg some sameTable.name
  rw [findCycle?, findCycle?, cycle?, cycle?, dependencies_of_alike alike, alike.length_eq,
    sameNames]

namespace Database

variable {db other : Database}

theorem orderWarnings_of_alike
    (alike : List.Forall₂ (Table.WrittenAlike d options) db.tables other.tables) :
    db.orderWarnings = other.orderWarnings := by
  rw [orderWarnings, orderWarnings, Dependency.dependencyOrder?_of_alike alike]

theorem writtenTables_of_alike
    (alike : List.Forall₂ (Table.WrittenAlike d options) db.tables other.tables) :
    List.Forall₂ (Table.WrittenAlike d options) db.writtenTables other.writtenTables := by
  unfold writtenTables
  rw [Dependency.dependencyOrder?_of_alike alike]
  cases Dependency.dependencyOrder? other.tables with
  | none => exact alike
  | some order =>
    refine List.rel_filterMap (R := Eq) ?_ (List.forall₂_eq_eq_eq ▸ rfl)
    rintro place _ rfl
    exact Related.getElem? alike place

/-- **Databases whose tables are written alike have the same texts.** -/
theorem createTexts_of_alike
    (alike : List.Forall₂ (Table.WrittenAlike d options) db.tables other.tables) :
    db.createTexts d options = other.createTexts d options := by
  have sameTexts : db.writtenTables.mapM (·.createText db.tables d options) =
      other.writtenTables.mapM (·.createText other.tables d options) :=
    Related.mapM_eq (writtenTables_of_alike alike) fun _ _ sameTable => sameTable.createText alike
  have sameRefers : db.tables.any (·.refersToTables) = other.tables.any (·.refersToTables) := by
    have each := Related.map_eq alike fun t otherTable sameTable =>
      show t.refersToTables = otherTable.refersToTables by
        rw [Table.refersToTables, Table.refersToTables, sameTable.ownRelationships]
    have throughMap : ∀ ts : List Table,
        ts.any (·.refersToTables) = (ts.map Table.refersToTables).any fun refers => refers := by
      intro ts
      rw [List.any_map]
      rfl
    rw [throughMap, throughMap, each]
  rw [createTexts, createTexts, sameTexts, sameRefers]

end Database

end SchemaCompiler
