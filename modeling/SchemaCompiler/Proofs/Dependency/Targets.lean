/-
**Targets of relationships.**

A relationship is resolved by looking for the first table with an id, and a dependency is the place
of the first table with that id.

* `Relationship.resolve_eq_ok_iff` — what is found for a relationship that resolves.
* `Relationship.exists_targetPlace` — an own relationship that resolves refers to the table at the
  place that counts as its dependency.
* `Dependency.mem_dependencies` — a table depends on the tables at those places, itself excepted.
-/

import SchemaCompiler.Proofs.Dependency.Order
import SchemaCompiler.Schema.Resolution

namespace SchemaCompiler

/-- The table with an id stands at the first place with that id. -/
theorem tableById?_eq_some {tables : List Table} {id : String} {t : Table}
    (found : tableById? tables id = some t) :
    ∃ place, tables.findIdx? (·.id == id) = some place ∧ tables[place]? = some t := by
  rw [tableById?, List.find?_eq_bind_findIdx?_getElem?] at found
  exact Option.bind_eq_some_iff.mp found

/-- A table of a list is found in it by its id, or another one with the same id is. -/
theorem exists_tableById? {tables : List Table} {t : Table} (member : t ∈ tables) :
    ∃ first, tableById? tables t.id = some first := by
  cases found : tableById? tables t.id with
  | some first => exact ⟨first, rfl⟩
  | none => simpa using List.find?_eq_none.mp found t member

namespace Relationship

variable {r : Relationship} {t : Table} {tables : List Table} {ends : ResolvedRelationship}

/-- **A relationship resolves** when its source column, its target and its target column are found. -/
theorem resolve_eq_ok_iff :
    r.resolve t tables = .ok ends ↔
      t.columnById? r.sourceColumnId = some ends.sourceColumn ∧
        r.target? t tables = some ends.targetTable ∧
        ends.targetTable.columnById? r.targetColumnId = some ends.targetColumn := by
  unfold resolve
  constructor
  · intro resolved
    split at resolved
    · cases resolved
    · split at resolved
      · cases resolved
      · split at resolved
        · cases resolved
        · cases resolved
          exact ⟨‹_›, ‹_›, ‹_›⟩
  · rintro ⟨source, target, column⟩
    simp only [source, target, column]

theorem target?_of_resolve (resolved : r.resolve t tables = .ok ends) :
    r.target? t tables = some ends.targetTable :=
  (resolve_eq_ok_iff.mp resolved).2.1

/-- **A relationship that resolves** for a table of the list refers to the first table with the
id. -/
theorem exists_targetPlace (member : t ∈ tables) (resolved : r.resolve t tables = .ok ends) :
    ∃ target, tables.findIdx? (·.id == r.targetTableId) = some target ∧
      tables[target]? = some ends.targetTable := by
  have found := target?_of_resolve resolved
  unfold target? at found
  cases byId : tableById? tables r.targetTableId with
  | some first =>
    rw [byId, Option.some_or] at found
    exact tableById?_eq_some (byId.trans found)
  | none =>
    -- The table itself would be found by its id, so it is not what the relationship falls back to.
    rw [byId, Option.none_or] at found
    by_cases self : r.targetTableId = t.id
    · obtain ⟨first, foundSelf⟩ := exists_tableById? member
      rw [self, foundSelf] at byId
      cases byId
    · rw [if_neg self] at found
      cases found

end Relationship

namespace Dependency

/-- **A table depends on what its own relationships refer to**, itself excepted. -/
theorem mem_dependencies {tables : List Table} {place target : Nat} {t : Table} {r : Relationship}
    (atPlace : tables[place]? = some t) (own : r ∈ t.ownRelationships)
    (found : tables.findIdx? (·.id == r.targetTableId) = some target) (distinct : target ≠ place) :
    target ∈ dependencies tables place := by
  have inside : target < tables.length := by
    obtain ⟨inside, _⟩ := List.findIdx?_eq_some_iff_getElem.mp found
    exact inside
  have isTarget : target ∈ t.ownRelationships.filterMap fun r =>
      tables.findIdx? (·.id == r.targetTableId) :=
    List.mem_filterMap.mpr ⟨r, own, found⟩
  rw [dependencies, atPlace]
  refine List.mem_filter.mpr ⟨List.mem_range.mpr inside, ?_⟩
  simp only [Bool.and_eq_true, bne_iff_ne, List.contains_iff_mem]
  exact ⟨distinct, isTarget⟩

end Dependency

end SchemaCompiler
