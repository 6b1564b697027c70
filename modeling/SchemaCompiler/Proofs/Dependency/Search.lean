/-
**The search for circles.**

`Dependency.search` goes through places in depth first. A place is settled when the search has left
it, so it is neither fresh nor on the path.

* `grounded_of_search` — a search without a result leaves only grounded places behind it.
* `grounded_of_findCycle?` — tables without a circle are grounded, each of them.
* `perm_of_findCycle?` — tables without a circle can all be put in order.
-/

import SchemaCompiler.Proofs.Dependency.Order

namespace SchemaCompiler.Dependency

variable {edges : Nat → List Nat}

/-! ### One step of the search -/

theorem search_cons_of_fresh {path places fresh : List Nat} {place : Nat}
    (offPath : place ∉ path) (isFresh : place ∈ fresh)
    (below : (search edges (place :: path) (edges place) (fresh.erase place)).1 = none) :
    (search edges path (place :: places) fresh).1 =
        (search edges path places
          (search edges (place :: path) (edges place) (fresh.erase place)).2.1).1 ∧
      (search edges path (place :: places) fresh).2.1 =
        (search edges path places
          (search edges (place :: path) (edges place) (fresh.erase place)).2.1).2.1 := by
  rw [search.eq_def edges path (place :: places) fresh]
  simp only [offPath, isFresh, if_false, dif_pos]
  split
  · rename_i found
    rw [found] at below
    simp at below
  · rename_i found
    rw [found]
    exact ⟨rfl, rfl⟩

theorem search_cons_of_circle {path places fresh circle rest : List Nat} {place : Nat}
    {bound : rest.length ≤ (fresh.erase place).length} (offPath : place ∉ path)
    (isFresh : place ∈ fresh)
    (below : search edges (place :: path) (edges place) (fresh.erase place) =
      (some circle, ⟨rest, bound⟩)) :
    (search edges path (place :: places) fresh).1 = some circle ∧
      (search edges path (place :: places) fresh).2.1 = rest := by
  rw [search.eq_def edges path (place :: places) fresh]
  simp [offPath, isFresh, below]

theorem search_cons_of_settled {path places fresh : List Nat} {place : Nat}
    (offPath : place ∉ path) (notFresh : place ∉ fresh) :
    search edges path (place :: places) fresh = search edges path places fresh := by
  rw [search.eq_def edges path (place :: places) fresh]
  simp only [offPath, notFresh, if_false, dif_neg, not_false_eq_true]

/-! ### What the search leaves behind -/

/-- Every settled place is grounded. -/
def SettledGrounded (edges : Nat → List Nat) (path fresh : List Nat) : Prop :=
  ∀ place, place ∉ path → place ∉ fresh → Grounded edges place

/-- **A search that finds no circle** grounds the places it was given and keeps every settled place
grounded. -/
theorem grounded_of_search {path places fresh : List Nat}
    (settled : SettledGrounded edges path fresh)
    (found : (search edges path places fresh).1 = none) :
    (∀ place ∈ places, Grounded edges place) ∧
      SettledGrounded edges path (search edges path places fresh).2.1 := by
  induction path, places, fresh using search.induct edges with
  | case1 path fresh =>
    refine ⟨by simp, ?_⟩
    rw [search]
    exact settled
  | case2 path place places fresh onPath =>
    rw [search, if_pos onPath] at found
    simp at found
  | case3 path place places fresh offPath isFresh _ cycle rest bound below _ =>
    rw [(search_cons_of_circle offPath isFresh below).1] at found
    cases found
  | case4 path place places fresh offPath isFresh _ rest bound below result last lastBound next
      ihBelow ihNext =>
    have none : (search edges (place :: path) (edges place) (fresh.erase place)).1 = none := by
      rw [below]
    obtain ⟨sameResult, sameRest⟩ := search_cons_of_fresh offPath isFresh none
    rw [sameResult] at found
    rw [sameRest]
    -- Below the place, only the place itself joins the path.
    have settledBelow : SettledGrounded edges (place :: path) (fresh.erase place) := by
      intro other offLonger notLeft
      obtain ⟨distinct, off⟩ := List.ne_and_not_mem_of_not_mem_cons offLonger
      exact settled other off fun left => notLeft ((List.mem_erase_of_ne distinct).mpr left)
    obtain ⟨dependencies, kept⟩ := ihBelow settledBelow none
    have grounded : Grounded edges place := Acc.intro place dependencies
    have settledAfter : SettledGrounded edges path
        (search edges (place :: path) (edges place) (fresh.erase place)).2.1 := by
      intro other off notLeft
      by_cases same : other = place
      · exact same ▸ grounded
      · exact kept other (List.not_mem_cons_of_ne_of_not_mem same off) notLeft
    rw [below] at found settledAfter ⊢
    obtain ⟨others, keptAfter⟩ := ihNext settledAfter found
    refine ⟨?_, keptAfter⟩
    intro other member
    rcases List.mem_cons.mp member with same | inRest
    · exact same ▸ grounded
    · exact others other inRest
  | case5 path place places fresh offPath notFresh ih =>
    rw [search_cons_of_settled offPath notFresh] at found ⊢
    obtain ⟨others, kept⟩ := ih settled found
    refine ⟨?_, kept⟩
    intro other member
    rcases List.mem_cons.mp member with same | inRest
    · exact same ▸ settled place offPath notFresh
    · exact others other inRest

/-! ### Dependencies between tables -/

/-- Dependencies are places of tables. -/
theorem lt_of_mem_dependencies {tables : List Table} {place other : Nat}
    (depends : other ∈ dependencies tables place) : other < tables.length := by
  unfold dependencies at depends
  split at depends
  · simp at depends
  · exact List.mem_range.mp (List.mem_of_mem_filter depends)

/-- What is no place of a table has no dependencies. -/
theorem dependencies_eq_nil {tables : List Table} {place : Nat} (outside : tables.length ≤ place) :
    dependencies tables place = [] := by
  rw [dependencies, List.getElem?_eq_none outside]

/-- **Tables without a circle are grounded.** -/
theorem grounded_of_findCycle? {tables : List Table} (acyclic : findCycle? tables = none)
    (place : Nat) : Grounded (dependencies tables) place := by
  have outside : ∀ other, other ∉ List.range tables.length →
      Grounded (dependencies tables) other := by
    intro other notPlace
    refine Acc.intro other fun target depends => ?_
    rw [dependencies_eq_nil (by simpa using notPlace)] at depends
    simp at depends
  by_cases isPlace : place ∈ List.range tables.length
  · have settled : SettledGrounded (dependencies tables) [] (List.range tables.length) :=
      fun other _ notFresh => outside other notFresh
    have found : cycle? tables = none := by simpa [findCycle?] using acyclic
    exact (grounded_of_search settled found).1 place isPlace
  · exact outside place isPlace

/-- **Tables without a circle can all be put in order.** -/
theorem perm_of_findCycle? {tables : List Table} (acyclic : findCycle? tables = none) :
    ∃ order, dependencyOrder? tables = some order ∧
      order.Perm (List.range tables.length) ∧
      ReadyOrder (dependencies tables) [] order := by
  let order := emit (dependencies tables) [] (List.range tables.length)
  have perm : order.Perm (List.range tables.length) := by
    refine perm_emit (fun place _ => grounded_of_findCycle? acyclic place) ?_
    intro place _ other depends
    exact .inr (List.mem_range.mpr (lt_of_mem_dependencies depends))
  have complete : order.length = tables.length := by
    rw [perm.length_eq, List.length_range]
  exact ⟨order, if_pos complete, perm, readyOrder_emit _ _ _⟩

end SchemaCompiler.Dependency
