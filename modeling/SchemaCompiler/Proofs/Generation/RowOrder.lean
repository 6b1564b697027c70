/-
**The order of inserted rows.**

When the rows of a database are asked for, an INSERT statement for every table with rows follows the
tables. The tables are written after those that they refer to; their rows are inserted in the order in
which the tables were declared. So rows that are referred to come first exactly when their tables are
declared first.

* `Database.respectsKeys_iff` — when an increasing list of places respects foreign keys.
* `CommandLine.generated_with_rows` — what is generated with rows, and when it respects them.
* `CommandLine.generated_orders_first` — rows that are inserted before those that they refer to.
-/

import Mathlib.Data.List.Sort
import SchemaCompiler.CommandLine.Run
import SchemaCompiler.Proofs.Generation.Outcomes
import SchemaCompiler.Proofs.Generation.WrittenOrder

namespace SchemaCompiler

/-! ### Texts in several parts -/

theorem intercalate_intercalate {separator : String} {front rest : List String}
    (nonempty : front ≠ []) :
    separator.intercalate (separator.intercalate front :: rest) =
      separator.intercalate (front ++ rest) := by
  by_cases last : rest = []
  · subst last
    rw [String.intercalate_singleton, List.append_nil]
  · rw [String.intercalate_append_of_ne_nil nonempty last, String.intercalate_cons_of_ne_nil last]

namespace GeneratedSql

/-- Several outcomes without errors as one have the texts that are not empty. -/
theorem merge_of_clean {d : Dialect} {outcomes : List GeneratedSql}
    (clean : ∀ g ∈ outcomes, g.errors = []) :
    (merge d outcomes).errors = [] ∧
      (merge d outcomes).sql =
        "\n\n".intercalate ((outcomes.map (·.sql)).filter (· ≠ "")) := by
  have none : outcomes.flatMap (·.errors) = [] := List.flatMap_eq_nil_iff.mpr clean
  exact ⟨none, if_pos (by rw [none]; rfl)⟩

end GeneratedSql

/-! ### INSERT statements -/

theorem Table.insertText_of_no_rows {t : Table} (none : t.rows = []) (d : Dialect)
    (options : GenerateOptions) : t.insertText d options = "" := by
  simp [insertText, filledColumns, none]

namespace Database

/-- The rows of the table at a place are inserted by a text. -/
def HasInsertAt (db : Database) (d : Dialect) (options : GenerateOptions) (place : Nat)
    (text : String) : Prop :=
  ∃ t, db.tables[place]? = some t ∧ t.insertText d options = text ∧ text ≠ ""

/-- The tables with rows to insert and their places, as they were declared. -/
def inserted (db : Database) (d : Dialect) (options : GenerateOptions) : List (Table × Nat) :=
  db.tables.zipIdx.filter fun entry => entry.1.insertText d options ≠ ""

/-- The places of the tables with rows to insert. -/
def insertPlaces (db : Database) (d : Dialect) (options : GenerateOptions) : List Nat :=
  (db.inserted d options).map (·.2)

/-- The texts that insert the rows. -/
def insertTexts (db : Database) (d : Dialect) (options : GenerateOptions) : List String :=
  (db.inserted d options).map (·.1.insertText d options)

section Inserted

variable (db : Database) (d : Dialect) (options : GenerateOptions)

variable {db d options} in
theorem mem_inserted_iff {entry : Table × Nat} :
    entry ∈ db.inserted d options ↔
      db.tables[entry.2]? = some entry.1 ∧ entry.1.insertText d options ≠ "" := by
  rw [inserted, List.mem_filter, List.mem_zipIdx_iff_getElem?, decide_eq_true_eq]

theorem forall₂_insertTexts :
    List.Forall₂ (db.HasInsertAt d options) (db.insertPlaces d options)
      (db.insertTexts d options) := by
  rw [insertPlaces, insertTexts, List.forall₂_map_left_iff, List.forall₂_map_right_iff,
    List.forall₂_same]
  intro entry member
  obtain ⟨atPlace, filled⟩ := mem_inserted_iff.mp member
  exact ⟨entry.1, atPlace, rfl, filled⟩

theorem mem_insertPlaces_iff {place : Nat} :
    place ∈ db.insertPlaces d options ↔ ∃ text, db.HasInsertAt d options place text := by
  constructor
  · intro member
    obtain ⟨entry, isInserted, rfl⟩ := List.mem_map.mp member
    obtain ⟨atPlace, filled⟩ := mem_inserted_iff.mp isInserted
    exact ⟨_, entry.1, atPlace, rfl, filled⟩
  · rintro ⟨text, t, atPlace, rfl, filled⟩
    exact List.mem_map.mpr ⟨(t, place), mem_inserted_iff.mpr ⟨atPlace, filled⟩, rfl⟩

/-- Rows are inserted in the order of their tables. -/
theorem pairwise_insertPlaces : (db.insertPlaces d options).Pairwise (· < ·) := by
  have all : (db.tables.zipIdx.map (·.2)).Pairwise (· < ·) := by
    rw [show db.tables.zipIdx.map (·.2) = List.range' 0 db.tables.length from
      List.zipIdx_map_snd 0 db.tables]
    exact List.pairwise_lt_range'
  exact all.sublist (List.filter_sublist.map _)

/-- The texts that insert rows are those of the tables with rows that are not empty. -/
theorem filter_insertTexts :
    ((db.tables.filter fun t => !t.rows.isEmpty).map (·.insertText d options)).filter (· ≠ "") =
      db.insertTexts d options := by
  have sameTables : (db.inserted d options).map (·.1) =
      db.tables.filter fun t => t.insertText d options ≠ "" := by
    conv_rhs => rw [← List.zipIdx_map_fst 0 db.tables, List.filter_map]
    rfl
  rw [insertTexts, show (fun entry : Table × Nat => entry.1.insertText d options) =
    (·.insertText d options) ∘ (·.1) from rfl, ← List.map_map, sameTables, List.filter_map,
    List.filter_filter]
  refine congrArg _ (List.filter_congr fun t _ => ?_)
  by_cases none : t.rows = []
  · simp [Table.insertText_of_no_rows none]
  · simp [none]

end Inserted

/-! ### Foreign keys among rows -/

/-- In an order in which the rows of tables are inserted, the rows that a table refers to come before
its own, if any are inserted. -/
def RespectsKeys (db : Database) (places : List Nat) : Prop :=
  ∀ place target, db.RefersTo place target → target ≠ place → place ∈ places → target ∈ places →
    [target, place].Sublist places

/-- **An increasing order respects foreign keys** exactly when tables are declared after those that
they refer to. -/
theorem respectsKeys_iff {db : Database} {places : List Nat}
    (increasing : places.Pairwise (· < ·)) :
    db.RespectsKeys places ↔ ∀ place target, db.RefersTo place target → target ≠ place →
      place ∈ places → target ∈ places → target < place := by
  refine forall₂_congr fun place target => imp_congr_right fun _ => imp_congr_right fun distinct =>
    imp_congr_right fun atPlace => imp_congr_right fun atTarget => ?_
  constructor
  · intro before
    exact List.pairwise_pair.mp (increasing.sublist before)
  · intro smaller
    have both : [target, place].Subperm places :=
      List.subperm_of_subset (by simpa using distinct) (by simp [atPlace, atTarget])
    exact List.sublist_of_subperm_of_pairwise both (List.pairwise_pair.mpr smaller) increasing

/-! ### Tables and rows -/

theorem ne_empty_of_createTexts {db : Database} {d : Dialect} {options : GenerateOptions}
    {texts : List String} (created : db.createTexts d options = .ok texts) :
    ∀ text ∈ texts, text ≠ "" := by
  obtain ⟨written, succeeded, rfl⟩ := Traversal.return_eq_ok_iff.mp created
  intro text member
  rcases List.mem_append.mp member with isPreamble | isTable
  · unfold Dialect.preamble? at isPreamble
    split at isPreamble
    · rw [List.mem_singleton.mp isPreamble]
      decide
    · cases isPreamble
  · obtain ⟨t, -, isText⟩ :=
      Traversal.exists_of_forall₂ (Traversal.mapM_eq_ok_iff.mp succeeded) isTable
    exact Table.createText_ne_empty isText

end Database

namespace CommandLine

/-- What is generated with rows is what makes the tables, and after that what inserts the rows. -/
theorem outcomes_of_valid {db : Database} {d : Dialect} {options : GenerateOptions}
    {created : List String} (valid : (db.validate d).errors = [])
    (isCreated : db.createTexts d options = .ok created) :
    (GeneratedSql.merge d (databaseOutcomes db d options true)).errors = [] ∧
      (GeneratedSql.merge d (databaseOutcomes db d options true)).sql =
        "\n\n".intercalate (created ++ db.insertTexts d options) := by
  have noErrors := Database.validate_errors_eq_nil_iff.mp valid
  obtain ⟨errors, sql⟩ := Database.generate_of_valid noErrors isCreated
  have ofRows (t : Table) (member : t ∈ db.tables) :
      (t.generateInsert d options).errors = [] ∧
        (t.generateInsert d options).sql = t.insertText d options := by
    have validTable := (Database.errors_eq_nil_iff.mp noErrors).2 t member
    rw [Table.generateInsert,
      GeneratedSql.ofChecked_of_valid (Table.validate_errors_eq_nil_iff.mpr validTable)]
    exact ⟨rfl, rfl⟩
  have clean : ∀ g ∈ databaseOutcomes db d options true, g.errors = [] := by
    intro g member
    rcases List.mem_cons.mp member with rfl | ofTable
    · exact errors
    · obtain ⟨t, isTable, rfl⟩ := List.mem_map.mp ofTable
      exact (ofRows t (List.mem_of_mem_filter isTable)).1
  have texts : (databaseOutcomes db d options true).map (·.sql) =
      "\n\n".intercalate created ::
        (db.tables.filter fun t => !t.rows.isEmpty).map (·.insertText d options) := by
    rw [databaseOutcomes, if_pos rfl, List.map_cons, List.map_map, sql]
    exact congrArg _ (List.map_congr_left fun t isTable =>
      (ofRows t (List.mem_of_mem_filter isTable)).2)
  obtain ⟨noError, joined⟩ := GeneratedSql.merge_of_clean clean
  refine ⟨noError, ?_⟩
  rw [joined, texts]
  -- Without tables and preamble there is no text in front of the rows.
  cases created with
  | nil =>
    rw [List.filter_cons_of_neg (by simp), Database.filter_insertTexts]
    rfl
  | cons first rest =>
    have nonempty : first ≠ "" :=
      Database.ne_empty_of_createTexts isCreated first List.mem_cons_self
    rw [List.filter_cons_of_pos (by simpa using intercalate_cons_ne_empty nonempty),
      Database.filter_insertTexts, intercalate_intercalate (List.cons_ne_nil _ _)]

/-- **What is generated with rows** for a database without errors is what makes its tables, and after
that one INSERT statement for each table with rows to insert, as the tables were declared. Rows that
are referred to come before those that refer to them exactly when their tables are declared so. -/
theorem generated_with_rows {request : GenerateRequest} {settings : Settings} {db : Database}
    {d : Dialect} {options : GenerateOptions} (whole : request.table = none)
    (withRows : request.inserts = true) (isDialect : request.dialect.getD settings.dialect = d)
    (isOptions : request.options settings = options) (valid : (db.validate d).errors = []) :
    ∃ g created places inserts, generated request settings db = .ok g ∧ g.errors = [] ∧
      db.createTexts d options = .ok created ∧
      g.sql = "\n\n".intercalate (created ++ inserts) ∧
      List.Forall₂ (db.HasInsertAt d options) places inserts ∧ places.Pairwise (· < ·) ∧
      (∀ place text, db.HasInsertAt d options place text → place ∈ places) ∧
      (db.RespectsKeys places ↔ ∀ place target, db.RefersTo place target → target ≠ place →
        place ∈ places → target ∈ places → target < place) := by
  obtain ⟨texts, -, created⟩ :=
    Database.exists_createTexts (Database.validate_errors_eq_nil_iff.mp valid) options
  obtain ⟨errors, sql⟩ := outcomes_of_valid valid created
  refine ⟨.merge d (databaseOutcomes db d options true), _, db.insertPlaces d options,
    db.insertTexts d options, ?_, errors, created, sql, db.forall₂_insertTexts d options,
    db.pairwise_insertPlaces d options, fun place text hasInsert => ?_,
    Database.respectsKeys_iff (db.pairwise_insertPlaces d options)⟩
  · simp only [generated, whole, withRows, isDialect, isOptions]
  · exact (db.mem_insertPlaces_iff d options).mpr ⟨text, hasInsert⟩

/-! ### Orders and customers -/

namespace Purchases

def key : Column :=
  { id := "k", name := "id", dataType := .integer, nullable := false, constraints := [.primaryKey] }

def customers : Table :=
  { id := "c", name := "customers", columns := [key],
    rows := [.ofList [("k", .number (.integer 1))]] }

/-- Orders refer to the customers that made them. -/
def orders : Table :=
  { id := "o", name := "orders",
    columns := [key, { id := "b", name := "buyer", dataType := .integer }],
    relationships :=
      [ { id := "r", name := "fk_buyer", sourceTableId := "o", sourceColumnId := "b",
          targetTableId := "c", targetColumnId := "k" } ],
    rows := [.ofList [("k", .number (.integer 7)), ("b", .number (.integer 1))]] }

/-- The shop with its orders declared first. -/
def ordersFirst : Database := { id := "d", name := "shop", tables := [orders, customers] }

/-- The shop with its customers declared first. -/
def customersFirst : Database := { id := "d", name := "shop", tables := [customers, orders] }

def request : GenerateRequest :=
  { schema := "shop.json", dialect := some .sqlite, table := none, inserts := true, pretty := false,
    noIfNotExists := false, noComments := false, engine := none, charset := none,
    collation := none, schemaName := none, strict := false, json := false, output := none }

def options : GenerateOptions := request.options {}

theorem findCycle?_ordersFirst : Dependency.findCycle? ordersFirst.tables = none := by
  have ofOrders : Dependency.dependencies ordersFirst.tables 0 = [1] := by decide
  have ofCustomers : Dependency.dependencies ordersFirst.tables 1 = [] := by decide
  have places : List.range ordersFirst.tables.length = [0, 1] := by decide
  simp [Dependency.findCycle?, Dependency.cycle?, Dependency.search, places, ofOrders, ofCustomers]

end Purchases

open Purchases in
/-- The order of the first customer is inserted before that customer. -/
theorem generated_orders_first :
    (ordersFirst.validate .sqlite).errors = [] ∧
      Dependency.findCycle? ordersFirst.tables = none ∧ ordersFirst.RefersTo 0 1 ∧
      (∃ g created, generated request {} ordersFirst = .ok g ∧
        ordersFirst.createTexts .sqlite options = .ok created ∧
        g.sql = "\n\n".intercalate (created ++
          ["INSERT INTO \"orders\" (\"id\", \"buyer\") VALUES (7, 1);",
            "INSERT INTO \"customers\" (\"id\") VALUES (1);"])) ∧
      ordersFirst.insertPlaces .sqlite options = [0, 1] ∧ ¬ ordersFirst.RespectsKeys [0, 1] := by
  have valid : (ordersFirst.validate .sqlite).errors = [] := by decide
  have refers : ordersFirst.RefersTo 0 1 :=
    ⟨orders, _, ⟨_, customers, key⟩, rfl, .head _, rfl, rfl⟩
  obtain ⟨_, -, created⟩ :=
    Database.exists_createTexts (Database.validate_errors_eq_nil_iff.mp valid) options
  have texts : ordersFirst.insertTexts .sqlite options =
      ["INSERT INTO \"orders\" (\"id\", \"buyer\") VALUES (7, 1);",
        "INSERT INTO \"customers\" (\"id\") VALUES (1);"] := by decide +kernel
  refine ⟨valid, findCycle?_ordersFirst, refers, ⟨_, _, rfl, created, ?_⟩, by decide +kernel,
    fun respects => ?_⟩
  · rw [← texts]
    exact (outcomes_of_valid valid created).2
  · have smaller := (Database.respectsKeys_iff (by decide)).mp respects 0 1 refers (by decide)
      (by decide) (by decide)
    exact absurd smaller (by decide)

open Purchases in
theorem generated_customers_first :
    request.table = none ∧ request.inserts = true ∧
      (customersFirst.validate .sqlite).errors = [] ∧ customersFirst.RefersTo 1 0 ∧
      ∃ g created, generated request {} customersFirst = .ok g ∧
        customersFirst.createTexts .sqlite options = .ok created ∧ g.errors = [] ∧
        ∃ places inserts, g.sql = "\n\n".intercalate (created ++ inserts) ∧
          0 ∈ places ∧ 1 ∈ places ∧ customersFirst.RespectsKeys places := by
  have valid : (customersFirst.validate .sqlite).errors = [] := by decide
  have refers : customersFirst.RefersTo 1 0 :=
    ⟨orders, _, ⟨_, customers, key⟩, rfl, .head _, rfl, rfl⟩
  have whole : request.table = none := rfl
  have declared : ∀ place target, customersFirst.RefersTo place target → target ≠ place →
      target < place := by
    rintro place target ⟨t, r, ends, atPlace, own, -, atTarget⟩ distinct
    have inside : target < 2 := (List.getElem?_eq_some_iff.mp atTarget).1
    match place with
    | 0 =>
      cases atPlace
      cases own
    | place + 1 => omega
  obtain ⟨g, created, places, inserts, isGenerated, clean, isCreated, sql, -, -, complete,
    respects⟩ := generated_with_rows whole rfl rfl rfl valid
  refine ⟨rfl, rfl, valid, refers, g, created, isGenerated, isCreated, clean, places, inserts, sql,
    complete 0 _ ⟨customers, rfl, rfl, by decide +kernel⟩,
    complete 1 _ ⟨orders, rfl, rfl, by decide +kernel⟩,
    respects.mpr fun place target refersTo distinct _ _ => declared place target refersTo distinct⟩

end CommandLine

end SchemaCompiler
