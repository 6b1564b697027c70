/-
**Every relationship is accounted for.**

A relationship is stored on a table. When another table is its source it is ignored, with a warning from
the check; when it resolves it is written as a foreign key; and otherwise it is skipped, with a warning
from the writer. For a table without errors just one of these happens to each of its relationships, and
the foreign keys stand in the order of the relationships behind all columns and keys.

* `Relationship.Joins` — the ends of a relationship, with the table itself as a fallback.
* `Relationship.HasFate` — the three cases, with what is seen of each in the outcome.
* `Relationship.hasFate_iff` — which of them it is.
* `Table.relationships_accounted_for` — the contract.
-/

import SchemaCompiler.Proofs.Dependency.Targets
import SchemaCompiler.Proofs.Generation.TableText
import SchemaCompiler.Proofs.Generation.Warnings

namespace SchemaCompiler

/-! ### The ends of a relationship -/

namespace Relationship

variable {r : Relationship} {t : Table} {tables : List Table} {ends : ResolvedRelationship}

/-- A relationship of a table joins a column of the table to a column of the first table with the id of
its target, or of the table itself when that has this id and the list holds no such table. -/
structure Joins (r : Relationship) (t : Table) (tables : List Table) (ends : ResolvedRelationship) :
    Prop where
  source : t.columnById? r.sourceColumnId = some ends.sourceColumn
  table : tableById? tables r.targetTableId = some ends.targetTable ∨
    tableById? tables r.targetTableId = none ∧ r.targetTableId = t.id ∧ ends.targetTable = t
  target : ends.targetTable.columnById? r.targetColumnId = some ends.targetColumn

theorem target?_eq_some_iff {found : Table} :
    r.target? t tables = some found ↔
      tableById? tables r.targetTableId = some found ∨
        tableById? tables r.targetTableId = none ∧ r.targetTableId = t.id ∧ found = t := by
  unfold target?
  cases tableById? tables r.targetTableId with
  | some first => simp
  | none =>
    by_cases self : r.targetTableId = t.id
    · simp [self, eq_comm]
    · simp [self]

/-- **A relationship resolves** to the ends that it joins. -/
theorem resolve_eq_ok_iff_joins : r.resolve t tables = .ok ends ↔ r.Joins t tables ends := by
  rw [resolve_eq_ok_iff, target?_eq_some_iff]
  exact ⟨fun ⟨source, table, target⟩ => ⟨source, table, target⟩,
    fun joins => ⟨joins.source, joins.table, joins.target⟩⟩

end Relationship

/-! ### What becomes of a relationship -/

/-- What becomes of a relationship when its table is created. -/
inductive RelationshipFate where
  | misplaced
  | written (clause : String)
  | skipped
  deriving DecidableEq

/-- The clause of a relationship that is written. -/
def RelationshipFate.clause? : RelationshipFate → Option String
  | .written clause => some clause
  | _ => none

namespace Relationship

/-- The foreign key that joins two columns. The actions of the relationship are written where they are
not the default of every dialect. -/
def keyClause (r : Relationship) (t : Table) (d : Dialect) (options : GenerateOptions)
    (ends : ResolvedRelationship) : String :=
  "CONSTRAINT " ++ d.quoteIdentifier (t.foreignKeyOf r ends).name ++ " FOREIGN KEY (" ++
    d.quoteIdentifier ends.sourceColumn.name ++ ") REFERENCES " ++
    d.tableName options ends.targetTable.name ++ " (" ++
    d.quoteIdentifier ends.targetColumn.name ++ ")" ++
    (if r.onDelete = .noAction then "" else " ON DELETE " ++ r.onDelete.sql) ++
    (if r.onUpdate = .noAction then "" else " ON UPDATE " ++ r.onUpdate.sql)

/-- **What becomes of a relationship** stored on a table, as the outcome shows it: another table is its
source, and a warning says that it is ignored; or it joins two columns, and its clause is written; or it
joins none, and a warning says why it is skipped. -/
inductive HasFate (r : Relationship) (t : Table) (tables : List Table) (d : Dialect)
    (options : GenerateOptions) (warnings : List String) : RelationshipFate → Prop
  | misplaced (elsewhere : r.sourceTableId ≠ t.id)
      (warned : "Relationship '" ++ r.displayName ++ "' is stored on table '" ++ t.name ++
        "' but its source is '" ++ r.sourceTableId ++ "'; ignored" ∈ warnings) :
      HasFate r t tables d options warnings .misplaced
  | written {ends : ResolvedRelationship} (own : r.sourceTableId = t.id)
      (joins : r.Joins t tables ends) :
      HasFate r t tables d options warnings (.written (r.keyClause t d options ends))
  | skipped {cause : Unresolved} (own : r.sourceTableId = t.id)
      (dangles : ∀ ends, ¬ r.Joins t tables ends) (fails : r.resolve t tables = .error cause)
      (warned : "Relationship '" ++ r.displayName ++ "' skipped: " ++ cause.reason ∈ warnings) :
      HasFate r t tables d options warnings .skipped

/-- What becomes of a relationship, from its source and from whether it resolves. -/
def fate (r : Relationship) (t : Table) (tables : List Table) (d : Dialect)
    (options : GenerateOptions) : RelationshipFate :=
  if r.sourceTableId = t.id then
    match r.resolve t tables with
    | .ok ends => .written (r.keyClause t d options ends)
    | .error _ => .skipped
  else .misplaced

variable {r : Relationship} {t : Table} {tables : List Table} {d : Dialect}
  {options : GenerateOptions} {warnings : List String} {fate : RelationshipFate}

theorem HasFate.eq_fate (has : r.HasFate t tables d options warnings fate) :
    fate = r.fate t tables d options := by
  cases has with
  | misplaced elsewhere _ => rw [Relationship.fate, if_neg elsewhere]
  | written own joins =>
    rw [Relationship.fate, if_pos own, resolve_eq_ok_iff_joins.mpr joins]
  | skipped own _ fails _ => rw [Relationship.fate, if_pos own, fails]

end Relationship

namespace Table

variable {t : Table} {d : Dialect}

/-! ### Foreign keys and warnings of a table -/

theorem render_foreignKeyOf (r : Relationship) (options : GenerateOptions)
    (ends : ResolvedRelationship) :
    (Definition.foreignKey (t.foreignKeyOf r ends)).render d options =
      r.keyClause t d options ends := by
  show (t.foreignKeyOf r ends).render d options = _
  unfold ForeignKey.render Relationship.keyClause actionText
  rfl

/-- The foreign keys of a table are the clauses of its relationships, in order. -/
theorem map_render_foreignKeys (tables : List Table) (options : GenerateOptions) :
    ((t.foreignKeys tables).map Definition.foreignKey).map (·.render d options) =
      (t.relationships.map (·.fate t tables d options)).filterMap (·.clause?) := by
  unfold foreignKeys ownRelationships
  rw [List.filterMap_filter, List.map_filterMap, List.map_filterMap, List.filterMap_map]
  congr 1
  funext r
  show _ = (r.fate t tables d options).clause?
  unfold Relationship.fate
  by_cases own : r.sourceTableId = t.id
  · rw [if_pos (beq_iff_eq.mpr own), if_pos own]
    cases r.resolve t tables with
    | error cause => rfl
    | ok ends => exact congrArg some (render_foreignKeyOf r options ends)
  · rw [if_neg (mt beq_iff_eq.mp own), if_neg own]
    rfl

/-- The check warns of a relationship with another source. -/
theorem misplaced_mem_warnings (nonempty : t.columns ≠ []) {r : Relationship}
    (stored : r ∈ t.relationships) (elsewhere : r.sourceTableId ≠ t.id) :
    .misplacedRelationship r.displayName r.sourceTableId ∈ t.warnings d := by
  have found : .misplacedRelationship r.displayName r.sourceTableId ∈ t.relationshipWarnings d r := by
    unfold relationshipWarnings
    rw [if_pos (bne_iff_ne.mpr elsewhere)]
    exact List.mem_singleton_self _
  exact (mem_warnings_iff nonempty).mpr (.inr (.inr ⟨r, stored, found⟩))

/-- **What becomes of a relationship** of a table without errors. -/
theorem hasFate_iff (valid : (t.validate d).errors = []) (tables : List Table)
    (options : GenerateOptions) {r : Relationship} (stored : r ∈ t.relationships)
    {fate : RelationshipFate} :
    r.HasFate t tables d options (t.generate tables d options).warnings fate ↔
      fate = r.fate t tables d options := by
  refine ⟨Relationship.HasFate.eq_fate, ?_⟩
  rintro rfl
  unfold Relationship.fate
  by_cases own : r.sourceTableId = t.id
  · rw [if_pos own]
    cases resolved : r.resolve t tables with
    | ok ends => exact .written own (Relationship.resolve_eq_ok_iff_joins.mp resolved)
    | error cause =>
      -- This warning comes from the writer and not from the check, which looks at one table only.
      have isOwn : r ∈ t.ownRelationships := List.mem_filter.mpr ⟨stored, beq_iff_eq.mpr own⟩
      refine .skipped own (fun ends joins => ?_) resolved ?_
      · rw [Relationship.resolve_eq_ok_iff_joins.mpr joins] at resolved
        cases resolved
      · exact (mem_warnings_generate valid).mpr
          (.inr (mem_skippedRelationships.mpr ⟨r, isOwn, cause, resolved, rfl⟩))
  · rw [if_neg own]
    have nonempty : t.columns ≠ [] := (errors_eq_nil_iff.mp (validate_errors_eq_nil_iff.mp valid)).1
    exact .misplaced own
      (message_mem_warnings_generate valid (misplaced_mem_warnings nonempty stored own))

/-! ### The contract -/

/-- **Every relationship is accounted for.** Exactly one thing becomes of each relationship stored on a
table without errors: it is ignored with a warning, or written, or skipped with a warning. The table is
created from its columns and its composite key, and after them the clauses of the relationships that are
written, in the order of the relationships. -/
theorem relationships_accounted_for (valid : (t.validate d).errors = []) (tables : List Table)
    (options : GenerateOptions) :
    (∀ r ∈ t.relationships, ∃! fate,
      r.HasFate t tables d options (t.generate tables d options).warnings fate) ∧
    ∃ fates,
      List.Forall₂ (fun r fate =>
        r.HasFate t tables d options (t.generate tables d options).warnings fate)
        t.relationships fates ∧
      (t.generate tables d options).Creates options t.name
        ((t.columnDefinitions d options ++ t.keyDefinitions).map (·.render d options) ++
          fates.filterMap (·.clause?)) := by
  refine ⟨fun r stored => ?_, t.relationships.map (·.fate t tables d options), ?_, ?_⟩
  · refine ⟨r.fate t tables d options, (hasFate_iff valid tables options stored).mpr rfl, ?_⟩
    intro other has
    exact (hasFate_iff valid tables options stored).mp has
  · refine List.forall₂_map_right_iff.mpr (List.forall₂_same.mpr fun r stored => ?_)
    exact (hasFate_iff valid tables options stored).mpr rfl
  · rw [← map_render_foreignKeys, ← List.map_append]
    exact creates_generate valid tables options

/-! ### A table with relationships of every kind -/

/-- Rooms, which have a number. -/
def rooms : Table :=
  { id := "r", name := "rooms",
    columns := [{ id := "n", name := "number", dataType := .integer, constraints := [.primaryKey] }] }

/-- Bookings refer to a room, to an earlier booking and to a guest, of which there are no tables. The
relationship between guests and rooms is stored with them by mistake. -/
def bookings : Table :=
  { id := "b", name := "bookings",
    columns :=
      [ { id := "k", name := "id", dataType := .integer, constraints := [.primaryKey] },
        { id := "e", name := "earlier", dataType := .integer },
        { id := "s", name := "room", dataType := .integer } ],
    relationships :=
      [ { id := "1", name := "stays", sourceTableId := "b", sourceColumnId := "s",
          targetTableId := "r", targetColumnId := "n", onDelete := .cascade },
        { id := "2", name := "likes", sourceTableId := "g", sourceColumnId := "k",
          targetTableId := "r", targetColumnId := "n" },
        { id := "3", name := "made_by", sourceTableId := "b", sourceColumnId := "k",
          targetTableId := "g", targetColumnId := "k" },
        { id := "4", sourceTableId := "b", sourceColumnId := "e", targetTableId := "b",
          targetColumnId := "k", onUpdate := .setNull } ] }

/-- The bookings themselves are not among the tables, and yet their relationship to them is written. -/
theorem relationships_accounted_for_bookings :
    (bookings.validate .sqlite).errors = [] ∧
      (∀ r ∈ bookings.relationships, ∃! fate, r.HasFate bookings [rooms] .sqlite {}
        (bookings.generate [rooms] .sqlite {}).warnings fate) ∧
      (∃ fates,
        List.Forall₂ (fun r fate => r.HasFate bookings [rooms] .sqlite {}
          (bookings.generate [rooms] .sqlite {}).warnings fate) bookings.relationships fates ∧
        (bookings.generate [rooms] .sqlite {}).Creates {} "bookings"
          ((bookings.columnDefinitions .sqlite {} ++ bookings.keyDefinitions).map
            (·.render .sqlite {}) ++ fates.filterMap (·.clause?))) ∧
      (bookings.generate [rooms] .sqlite {}).warnings =
        [ "Relationship 'likes' is stored on table 'bookings' but its source is 'g'; ignored",
          "Relationship 'made_by' skipped: target table 'g' not found" ] ∧
      (bookings.generate [rooms] .sqlite {}).sql =
        "PRAGMA foreign_keys = ON;\nCREATE TABLE IF NOT EXISTS \"bookings\" (" ++
          "\"id\" INTEGER NOT NULL PRIMARY KEY, \"earlier\" INTEGER, \"room\" INTEGER, " ++
          "CONSTRAINT \"stays\" FOREIGN KEY (\"room\") REFERENCES \"rooms\" (\"number\") " ++
          "ON DELETE CASCADE, CONSTRAINT \"fk_bookings_earlier\" FOREIGN KEY (\"earlier\") " ++
          "REFERENCES \"bookings\" (\"id\") ON UPDATE SET NULL);" := by
  have valid : (bookings.validate .sqlite).errors = [] := by decide
  obtain ⟨unique, created⟩ := relationships_accounted_for valid [rooms] {}
  exact ⟨valid, unique, created, by decide, by decide +kernel⟩

end Table

end SchemaCompiler
