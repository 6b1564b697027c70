/-
**Referenced tables come first.**

The statements of a database are written table by table. When relationships do not run in a circle,
the text of every table comes after the texts of the tables that its foreign keys refer to.

Two lookups have to agree for that: the order is made from the places at which the ids of targets
are found first, and a foreign key names the table that resolving the relationship gives. Tables may
share an id, so the ids alone do not say which table is meant; places do.

* `Database.generate_in_order` — what is generated for a database without errors and circles.
-/

import SchemaCompiler.Proofs.Dependency.Search
import SchemaCompiler.Proofs.Dependency.Targets
import SchemaCompiler.Proofs.Generation.CreateText
import SchemaCompiler.Proofs.Validation.Names

namespace SchemaCompiler

/-- The foreign keys among the definitions of a table are made for the own relationships that
resolve. -/
theorem Table.foreignKey_mem_definitions {t : Table} {tables : List Table} {d : Dialect}
    {options : GenerateOptions} {key : ForeignKey} :
    .foreignKey key ∈ t.definitions tables d options ↔
      ∃ r ∈ t.ownRelationships, ∃ ends, r.resolve t tables = .ok ends ∧
        key = t.foreignKeyOf r ends := by
  have isKey : .foreignKey key ∈ t.definitions tables d options ↔ key ∈ t.foreignKeys tables := by
    unfold definitions columnDefinitions keyDefinitions
    by_cases composite : t.hasCompositeKey <;> simp [composite]
  rw [isKey, foreignKeys, List.mem_filterMap]
  refine exists_congr fun r => and_congr_right fun _ => ?_
  cases r.resolve t tables with
  | error cause => simp
  | ok ends => simp [eq_comm]

namespace Database

/-! ### Tables by their places -/

/-- The table at a place is made by a text. -/
def HasTextAt (db : Database) (d : Dialect) (options : GenerateOptions) (place : Nat)
    (text : String) : Prop :=
  ∃ t, db.tables[place]? = some t ∧ t.createText db.tables d options = .ok text

/-- The table at a place has a foreign key to the table at another: one of its own relationships
resolves to that table. -/
def RefersTo (db : Database) (place target : Nat) : Prop :=
  ∃ t r ends, db.tables[place]? = some t ∧ r ∈ t.ownRelationships ∧
    r.resolve t db.tables = .ok ends ∧ db.tables[target]? = some ends.targetTable

/-- What is generated for a database is the preamble, if any, and the texts of the tables at the
places of an order, in which every table comes after the other tables that its foreign keys refer
to. -/
structure WrittenInOrder (db : Database) (d : Dialect) (options : GenerateOptions)
    (order : List Nat) (texts : List String) : Prop where
  /-- Every table has one place in the order. -/
  perm : order.Perm (List.range db.tables.length)
  /-- The texts make the tables, in this order. -/
  tables : List.Forall₂ (db.HasTextAt d options) order texts
  /-- The foreign keys between the parentheses of a table are those of its own relationships that
  resolve. -/
  foreignKeys : ∀ t ∈ db.tables, ∀ key,
    .foreignKey key ∈ t.definitions db.tables d options ↔
      ∃ r ∈ t.ownRelationships, ∃ ends, r.resolve t db.tables = .ok ends ∧
        key = t.foreignKeyOf r ends
  errors : (db.generate d options).errors = []
  sql : (db.generate d options).sql = "\n\n".intercalate
    ((d.preamble? (db.tables.any (·.refersToTables))).toList ++ texts)
  targetsFirst : ∀ place target, db.RefersTo place target →
    target = place ∨ [target, place].Sublist order

variable {db : Database} {d : Dialect}

/-- A table that another one refers to is the table itself or one that it depends on. -/
theorem RefersTo.mem_dependencies (valid : db.errors d = []) {place target : Nat}
    (refers : db.RefersTo place target) :
    target = place ∨ target ∈ Dependency.dependencies db.tables place := by
  obtain ⟨t, r, ends, atPlace, own, resolved, atTarget⟩ := refers
  obtain ⟨found, isFound, atFound⟩ :=
    Relationship.exists_targetPlace (List.mem_of_getElem? atPlace) resolved
  have same : found = target := place_unique valid atFound atTarget
  subst same
  by_cases self : found = place
  · exact .inl self
  · exact .inr (Dependency.mem_dependencies atPlace own isFound self)

/-- The tables at the places of an order are what is written, in this order. -/
theorem forall₂_writtenTables {order : List Nat}
    (isOrder : Dependency.dependencyOrder? db.tables = some order)
    (inside : ∀ place ∈ order, place < db.tables.length) :
    List.Forall₂ (fun place t => db.tables[place]? = some t) order db.writtenTables := by
  rw [writtenTables, isOrder]
  exact Traversal.forall₂_filterMap fun place member =>
    ⟨_, List.getElem?_eq_getElem (inside place member)⟩

/-- Places with their tables and tables with their texts are places with their texts. -/
theorem forall₂_hasTextAt {options : GenerateOptions} {order : List Nat} {tables : List Table}
    {texts : List String}
    (places : List.Forall₂ (fun place t => db.tables[place]? = some t) order tables)
    (written : List.Forall₂ (fun t text => t.createText db.tables d options = .ok text) tables
      texts) :
    List.Forall₂ (db.HasTextAt d options) order texts := by
  induction places generalizing texts with
  | nil =>
    cases written
    exact .nil
  | cons atPlace _ ih =>
    cases written with
    | cons hasText others => exact .cons ⟨_, atPlace, hasText⟩ (ih others)

/-- **Referenced tables come first.** A database without errors and without circles is written with
one text for each of its tables, and a table that refers to another one stands after it, whether or
not tables share an id. -/
theorem generate_in_order (options : GenerateOptions) (valid : (db.validate d).errors = [])
    (acyclic : Dependency.findCycle? db.tables = none) :
    ∃ order texts, db.WrittenInOrder d options order texts := by
  have noErrors := validate_errors_eq_nil_iff.mp valid
  obtain ⟨order, isOrder, perm, ready⟩ := Dependency.perm_of_findCycle? acyclic
  have inside : ∀ place ∈ order, place < db.tables.length := fun place member =>
    List.mem_range.mp (perm.mem_iff.mp member)
  obtain ⟨texts, written, created⟩ := exists_createTexts noErrors options
  obtain ⟨errors, sql⟩ := generate_of_valid noErrors created
  refine ⟨order, texts, ⟨perm, ?_, fun _ _ _ => Table.foreignKey_mem_definitions, errors, sql, ?_⟩⟩
  · exact forall₂_hasTextAt (forall₂_writtenTables isOrder inside) written
  · intro place target refers
    rcases refers.mem_dependencies noErrors with self | depends
    · exact .inl self
    · obtain ⟨t, _, _, atPlace, _⟩ := refers
      obtain ⟨isPlace, _⟩ := List.getElem?_eq_some_iff.mp atPlace
      have member : place ∈ order := perm.mem_iff.mpr (List.mem_range.mpr isPlace)
      exact .inr ((ready.precedes member depends).resolve_left List.not_mem_nil)

/-! ### Tables that share an id -/

namespace SharedIds

def key : Column :=
  { id := "k", name := "id", dataType := .integer, nullable := false, constraints := [.primaryKey] }

/-- A relationship between the keys of two tables. -/
def reference (id source target : String) : Relationship :=
  { id, sourceTableId := source, sourceColumnId := "k", targetTableId := target,
    targetColumnId := "k" }

def orders : Table :=
  { id := "o", name := "orders", columns := [key], relationships := [reference "r1" "o" "c"] }

/-- Customers refer to customers. -/
def customers : Table :=
  { id := "c", name := "customers", columns := [key], relationships := [reference "r2" "c" "c"] }

/-- The archive has the id of the customers, so its reference to that id is one to customers. -/
def archive : Table :=
  { id := "c", name := "archive", columns := [key],
    relationships := [reference "r3" "c" "o", reference "r4" "c" "c"] }

def shop : Database := { id := "d", name := "shop", tables := [orders, customers, archive] }

theorem findCycle?_shop : Dependency.findCycle? shop.tables = none := by
  have ofOrders : Dependency.dependencies shop.tables 0 = [1] := by decide
  have ofCustomers : Dependency.dependencies shop.tables 1 = [] := by decide
  have ofArchive : Dependency.dependencies shop.tables 2 = [0, 1] := by decide
  have places : List.range shop.tables.length = [0, 1, 2] := by decide
  simp [Dependency.findCycle?, Dependency.cycle?, Dependency.search, places, ofOrders,
    ofCustomers, ofArchive]

end SharedIds

open SharedIds in
theorem shop_in_order :
    (shop.validate .sqlite).errors = [] ∧ Dependency.findCycle? shop.tables = none ∧
      shop.RefersTo 0 1 ∧ shop.RefersTo 2 0 ∧ shop.RefersTo 2 1 ∧
      ∃ order texts, shop.WrittenInOrder .sqlite {} order texts := by
  have valid : (shop.validate .sqlite).errors = [] := by decide
  refine ⟨valid, findCycle?_shop, ?_, ?_, ?_, generate_in_order {} valid findCycle?_shop⟩
  · exact ⟨orders, reference "r1" "o" "c", ⟨key, customers, key⟩, rfl, .head _, rfl, rfl⟩
  · exact ⟨archive, reference "r3" "c" "o", ⟨key, orders, key⟩, rfl, .head _, rfl, rfl⟩
  · exact ⟨archive, reference "r4" "c" "c", ⟨key, customers, key⟩, rfl, .tail _ (.head _), rfl, rfl⟩

end Database

end SchemaCompiler
