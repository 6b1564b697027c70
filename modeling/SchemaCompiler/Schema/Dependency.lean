/-
**Dependencies between tables.**

A table depends on the tables that its own relationships name as their targets, itself excepted.

* `dependencyOrder?` emits, again and again, the first table all of whose dependencies have been
  emitted. It fails when some tables remain, which is when dependencies run in a circle.
* `findCycle?` searches for a circle in depth first. Tables are fresh until the search comes to
  them and lie on the path as long as the search is below them; a step back to the path closes a
  circle.
-/

import SchemaCompiler.Schema.Table

namespace SchemaCompiler.Dependency

/-- The places of the tables that the table at a place depends on, in increasing order. -/
def dependencies (tables : List Table) (place : Nat) : List Nat :=
  match tables[place]? with
  | none => []
  | some table =>
    let targets := table.ownRelationships.filterMap fun r =>
      tables.findIdx? (·.id == r.targetTableId)
    (List.range tables.length).filter fun other => other != place && targets.contains other

/-- The number of dependencies of a table that have not been emitted. -/
def pending (edges : Nat → List Nat) (emitted : List Nat) (place : Nat) : Nat :=
  (edges place).countP fun other => !emitted.contains other

/-- The places that can be emitted one after the other, least first, after those that have been
emitted, latest first. -/
def emit (edges : Nat → List Nat) (emitted remaining : List Nat) : List Nat :=
  match _found : remaining.find? fun place => pending edges emitted place == 0 with
  | none => []
  | some place => place :: emit edges (place :: emitted) (remaining.erase place)
termination_by remaining.length
decreasing_by
  have member := List.mem_of_find?_eq_some _found
  have nonempty := List.length_pos_of_mem member
  rw [List.length_erase_of_mem member]
  omega

/-- The places of the tables with every table after those that it depends on; of the tables that
could come next the first one does. -/
def dependencyOrder? (tables : List Table) : Option (List Nat) :=
  let order := emit (dependencies tables) [] (List.range tables.length)
  if order.length = tables.length then some order else none

/-- The circle that a step from the path, latest place first, back to one of its places closes. -/
def closedCycle (path : List Nat) (place : Nat) : List Nat :=
  place :: (path.takeWhile (· != place)).reverse ++ [place]

/-- Search below each of the given places, for a circle through the path or below it. The result
holds the places that are still fresh, of which there are no more than before. -/
def search (edges : Nat → List Nat) (path : List Nat) :
    (places fresh : List Nat) →
      Option (List Nat) × { rest : List Nat // rest.length ≤ fresh.length }
  | [], fresh => (none, ⟨fresh, Nat.le_refl _⟩)
  | place :: places, fresh =>
    if place ∈ path then (some (closedCycle path place), ⟨fresh, Nat.le_refl _⟩)
    else if isFresh : place ∈ fresh then
      have fewer : (fresh.erase place).length < fresh.length := by
        have nonempty := List.length_pos_of_mem isFresh
        rw [List.length_erase_of_mem isFresh]
        omega
      match search edges (place :: path) (edges place) (fresh.erase place) with
      | (some cycle, ⟨rest, bound⟩) => (some cycle, ⟨rest, Nat.le_trans bound (Nat.le_of_lt fewer)⟩)
      | (none, ⟨rest, bound⟩) =>
        let (result, ⟨last, lastBound⟩) := search edges path places rest
        (result, ⟨last, by omega⟩)
    else search edges path places fresh
termination_by places fresh => (fresh.length, places.length)

/-- The places of the first circle of dependencies, with its start repeated at the end. -/
def cycle? (tables : List Table) : Option (List Nat) :=
  let places := List.range tables.length
  (search (dependencies tables) [] places places).1

/-- The names of the tables of the first circle of dependencies. -/
def findCycle? (tables : List Table) : Option (List String) :=
  (cycle? tables).map (·.filterMap fun place => (tables[place]?).map (·.name))

end SchemaCompiler.Dependency
