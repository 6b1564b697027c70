/-
**Circles of dependencies.**

A table depends on another one when it owns a relationship whose target id is found there first. What
the search finds is a circle of such steps, and there is a circle exactly when the tables cannot be
put in order.

* `mem_dependencies_iff` — the places that are listed for a table are those it depends on.
* `isCircle_of_search` — what the search finds is a circle.
* `perm_of_dependencyOrder?` — an order holds every place once, dependencies first.
* `dependencyOrder?_eq_none_iff`, `isSome_findCycle?_iff` — order, search and graph agree.
-/

import Mathlib.Data.List.Chain
import Mathlib.Data.List.Perm.Subperm
import SchemaCompiler.Proofs.Dependency.Search
import SchemaCompiler.Proofs.Dependency.Targets

namespace SchemaCompiler.Dependency

/-! ### The graph of dependencies -/

/-- The table at a place owns a relationship whose target id is found first at another place. -/
def DependsOn (tables : List Table) (place other : Nat) : Prop :=
  other ≠ place ∧ ∃ t, tables[place]? = some t ∧ ∃ r ∈ t.ownRelationships,
    tables.findIdx? (·.id == r.targetTableId) = some other

/-- **The dependencies that are listed** are those of the graph. -/
theorem mem_dependencies_iff {tables : List Table} {place other : Nat} :
    other ∈ dependencies tables place ↔ DependsOn tables place other := by
  constructor
  · intro depends
    unfold dependencies at depends
    cases atPlace : tables[place]? with
    | none => simp [atPlace] at depends
    | some t =>
      rw [atPlace] at depends
      obtain ⟨-, wanted⟩ := List.mem_filter.mp depends
      simp only [Bool.and_eq_true, bne_iff_ne, List.contains_iff_mem] at wanted
      obtain ⟨r, own, found⟩ := List.mem_filterMap.mp wanted.2
      exact ⟨wanted.1, t, atPlace, r, own, found⟩
  · rintro ⟨distinct, t, atPlace, r, own, found⟩
    exact mem_dependencies atPlace own found distinct

/-- A circle: a list of places that ends where it starts, goes from each place to one that it depends
on, and comes through at least two places, through none of them twice. -/
structure IsCircle (depends : Nat → Nat → Prop) (circle : List Nat) : Prop where
  length : 3 ≤ circle.length
  closed : circle.getLast? = circle.head?
  distinct : circle.dropLast.Nodup
  chain : circle.IsChain depends

/-- A place of a circle depends on itself through others. -/
theorem IsCircle.exists_transGen {depends : Nat → Nat → Prop} {circle : List Nat}
    (isCircle : IsCircle depends circle) : ∃ place, Relation.TransGen depends place place := by
  obtain ⟨length, closed, -, chain⟩ := isCircle
  match circle, length with
  | start :: next :: rest, _ =>
    obtain ⟨step, others⟩ := List.isChain_cons_cons.mp chain
    have returns : (next :: rest).getLast (List.cons_ne_nil _ _) = start := by
      rw [List.getLast?_cons_cons, List.getLast?_eq_some_getLast (List.cons_ne_nil _ _)] at closed
      exact Option.some.inj closed
    have back := List.relationReflTransGen_of_exists_isChain_cons rest others returns
    exact ⟨start, Relation.TransGen.head' step back⟩

/-- Every place of a circle depends on another one. -/
theorem IsCircle.exists_next {depends : Nat → Nat → Prop} {circle : List Nat}
    (isCircle : IsCircle depends circle) {place : Nat} (member : place ∈ circle) :
    ∃ other, depends place other := by
  obtain ⟨length, closed, -, chain⟩ := isCircle
  obtain ⟨position, inside, rfl⟩ := List.getElem_of_mem member
  by_cases isLast : position + 1 < circle.length
  · exact ⟨_, chain.getElem position isLast⟩
  · -- The last place is the first one.
    have same : circle[position] = circle[0] := by
      rw [List.getLast?_eq_getElem?, List.head?_eq_getElem?,
        show circle.length - 1 = position by omega, List.getElem?_eq_getElem inside,
        List.getElem?_eq_getElem (by omega)] at closed
      exact Option.some.inj closed
    exact ⟨_, same ▸ chain.getElem 0 (by omega)⟩

/-! ### What the search finds -/

variable {edges : Nat → List Nat}

/-- The circle through a place of the path is the path back to it, turned round, and the place once
more. -/
theorem closedCycle_append {later earlier : List Nat} {place : Nat} (notLater : place ∉ later) :
    closedCycle (later ++ place :: earlier) place = (later ++ [place]).reverse ++ [place] := by
  have walked : (later ++ place :: earlier).takeWhile (· != place) = later := by
    rw [List.takeWhile_append_of_pos fun other member => by
        simpa using fun same : other = place => notLater (same ▸ member)]
    simp
  rw [closedCycle, walked, List.reverse_append]
  rfl

/-- The path of a search, latest place first, goes along edges through distinct places, and the places
to search below are next to the latest one. -/
structure OnTrail (edges : Nat → List Nat) (path places : List Nat) : Prop where
  distinct : path.Nodup
  chain : path.IsChain fun later earlier => later ∈ edges earlier
  next : ∀ latest ∈ path.head?, ∀ place ∈ places, place ∈ edges latest

namespace OnTrail

variable {path places : List Nat} {place : Nat}

theorem tail (onTrail : OnTrail edges path (place :: places)) : OnTrail edges path places :=
  ⟨onTrail.distinct, onTrail.chain, fun latest isLatest other member =>
    onTrail.next latest isLatest other (List.mem_cons_of_mem _ member)⟩

/-- A place that is not on the path may be added to it. -/
theorem enter (onTrail : OnTrail edges path (place :: places)) (offPath : place ∉ path) :
    OnTrail edges (place :: path) (edges place) := by
  refine ⟨List.nodup_cons.mpr ⟨offPath, onTrail.distinct⟩, ?_, ?_⟩
  · exact List.isChain_cons.mpr ⟨fun latest isLatest =>
      onTrail.next latest isLatest place List.mem_cons_self, onTrail.chain⟩
  · intro latest isLatest other member
    cases isLatest
    exact member

/-- **A step back to the path** closes a circle, as no place is next to itself. -/
theorem isCircle_closedCycle (onTrail : OnTrail edges path (place :: places))
    (irreflexive : ∀ place, place ∉ edges place) (onPath : place ∈ path) :
    IsCircle (fun place other => other ∈ edges place) (closedCycle path place) := by
  obtain ⟨distinct, chain, next⟩ := onTrail
  obtain ⟨later, earlier, rfl, notLater⟩ := List.eq_append_cons_of_mem onPath
  obtain ⟨latest, others, rfl⟩ : ∃ latest others, later = latest :: others := by
    refine List.exists_cons_of_ne_nil fun empty => ?_
    subst empty
    exact irreflexive place (next place rfl place List.mem_cons_self)
  have step : place ∈ edges latest := next latest rfl place List.mem_cons_self
  rw [closedCycle_append notLater]
  rw [List.append_cons] at distinct chain
  refine ⟨by simp, ?_, ?_, ?_⟩
  · rw [List.getLast?_concat, List.reverse_concat]
    rfl
  · rw [List.dropLast_concat, List.nodup_reverse]
    exact distinct.of_append_left
  · refine List.IsChain.append (List.isChain_reverse.mpr chain.left_of_append)
      (List.isChain_singleton place) ?_
    intro last isLast target isTarget
    rw [List.getLast?_reverse] at isLast
    cases isLast
    cases isTarget
    exact step

end OnTrail

/-- **What the search finds is a circle.** -/
theorem isCircle_of_search (irreflexive : ∀ place, place ∉ edges place)
    {path places fresh circle : List Nat} (onTrail : OnTrail edges path places)
    (found : (search edges path places fresh).1 = some circle) :
    IsCircle (fun place other => other ∈ edges place) circle := by
  induction path, places, fresh using search.induct edges with
  | case1 path fresh => simp [search] at found
  | case2 path place places fresh onPath =>
    rw [search, if_pos onPath] at found
    cases found
    exact onTrail.isCircle_closedCycle irreflexive onPath
  | case3 path place places fresh offPath isFresh _ inner rest bound below ih =>
    rw [(search_cons_of_circle offPath isFresh below).1] at found
    cases found
    exact ih (onTrail.enter offPath) (by rw [below])
  | case4 path place places fresh offPath isFresh _ rest bound below result last lastBound next
      ihBelow ihNext =>
    have none : (search edges (place :: path) (edges place) (fresh.erase place)).1 = none := by
      rw [below]
    rw [(search_cons_of_fresh offPath isFresh none).1, below] at found
    exact ihNext onTrail.tail found
  | case5 path place places fresh offPath notFresh ih =>
    rw [search_cons_of_settled offPath notFresh] at found
    exact ih onTrail.tail found

/-! ### What an order holds -/

/-- Nothing comes out that was not there. -/
theorem subperm_emit (edges : Nat → List Nat) (emitted remaining : List Nat) :
    (emit edges emitted remaining).Subperm remaining := by
  induction emitted, remaining using emit.induct edges with
  | case1 emitted remaining blocked =>
    rw [emit, blocked]
    exact List.nil_subperm
  | case2 emitted remaining place found ih =>
    rw [emit, found]
    have member := List.mem_of_find?_eq_some found
    exact ((List.subperm_cons place).mpr ih).trans (List.perm_cons_erase member).symm.subperm

/-- **An order of tables** holds every place once, dependencies first. -/
theorem perm_of_dependencyOrder? {tables : List Table} {order : List Nat}
    (isOrder : dependencyOrder? tables = some order) :
    order.Perm (List.range tables.length) ∧ ReadyOrder (dependencies tables) [] order := by
  simp only [dependencyOrder?] at isOrder
  split at isOrder
  · rename_i complete
    cases isOrder
    refine ⟨(subperm_emit _ _ _).perm_of_length_le ?_, readyOrder_emit _ _ _⟩
    rw [complete, List.length_range]
  · cases isOrder

/-- Places that come after all their dependencies are grounded. -/
theorem ReadyOrder.grounded {emitted order : List Nat} (ready : ReadyOrder edges emitted order)
    (before : ∀ place ∈ emitted, Grounded edges place) : ∀ place ∈ order, Grounded edges place := by
  induction order generalizing emitted with
  | nil => simp
  | cons first rest ih =>
    obtain ⟨firstReady, restReady⟩ := ready
    have ground : Grounded edges first :=
      Acc.intro first fun other depends => before other (firstReady other depends)
    have others := ih restReady fun place member => by
      rcases List.mem_cons.mp member with same | earlier
      · exact same ▸ ground
      · exact before place earlier
    intro place member
    rcases List.mem_cons.mp member with same | inRest
    · exact same ▸ ground
    · exact others place inRest

/-- A grounded place does not depend on itself, directly or through others. -/
theorem Grounded.not_transGen {place : Nat} (grounded : Grounded edges place) :
    ¬ Relation.TransGen (fun place other => other ∈ edges place) place place := by
  have steps : Acc (Relation.TransGen fun other place => other ∈ edges place) place :=
    Acc.transGen grounded
  clear grounded
  induction steps with
  | intro place _ ih => exact fun circle => ih place (Relation.transGen_swap.mp circle) circle

/-! ### Order, search and graph -/

section Tables

variable {tables : List Table}

theorem notMem_dependencies_self (tables : List Table) (place : Nat) :
    place ∉ dependencies tables place := fun depends =>
  (mem_dependencies_iff.mp depends).1 rfl

/-- What is found for tables is a circle of their dependencies. -/
theorem isCircle_of_cycle? {circle : List Nat} (found : cycle? tables = some circle) :
    IsCircle (DependsOn tables) circle := by
  have same : (fun place other => other ∈ dependencies tables place) = DependsOn tables := by
    funext place other
    exact propext mem_dependencies_iff
  have onTrail : OnTrail (dependencies tables) [] (List.range tables.length) :=
    ⟨List.nodup_nil, List.isChain_nil, by simp⟩
  rw [← same]
  exact isCircle_of_search (notMem_dependencies_self tables) onTrail found

/-- The places of what is found are places of tables. -/
theorem lt_of_mem_cycle? {circle : List Nat} (found : cycle? tables = some circle) {place : Nat}
    (member : place ∈ circle) : place < tables.length := by
  obtain ⟨_, -, t, atPlace, -⟩ := (isCircle_of_cycle? found).exists_next member
  exact (List.getElem?_eq_some_iff.mp atPlace).1

/-- Tables that can be put in order do not depend on one another in a circle. -/
theorem not_transGen_of_dependencyOrder? {order : List Nat}
    (isOrder : dependencyOrder? tables = some order) (place : Nat) :
    ¬ Relation.TransGen (DependsOn tables) place place := by
  obtain ⟨perm, ready⟩ := perm_of_dependencyOrder? isOrder
  intro circle
  have inside : place < tables.length := by
    obtain ⟨other, step, -⟩ := Relation.TransGen.head'_iff.mp circle
    obtain ⟨-, t, atPlace, -⟩ := step
    exact (List.getElem?_eq_some_iff.mp atPlace).1
  have grounded : Grounded (dependencies tables) place :=
    ready.grounded (by simp) place (perm.mem_iff.mpr (List.mem_range.mpr inside))
  exact grounded.not_transGen <|
    Relation.TransGen.mono (fun _ _ => mem_dependencies_iff.mpr) _ _ circle

/-- **The search finds a circle** exactly when there is one. -/
theorem isSome_findCycle?_iff :
    (findCycle? tables).isSome = true ↔
      ∃ place, Relation.TransGen (DependsOn tables) place place := by
  constructor
  · intro found
    obtain ⟨circle, isFound⟩ := Option.isSome_iff_exists.mp
      (show (cycle? tables).isSome = true by simpa [findCycle?] using found)
    exact (isCircle_of_cycle? isFound).exists_transGen
  · rintro ⟨place, circle⟩
    by_contra none
    obtain ⟨order, isOrder, -, -⟩ := perm_of_findCycle? (by simpa using none)
    exact not_transGen_of_dependencyOrder? isOrder place circle

/-- **Tables cannot be put in order** exactly when a circle is found. -/
theorem dependencyOrder?_eq_none_iff :
    dependencyOrder? tables = none ↔ (findCycle? tables).isSome = true := by
  constructor
  · intro unordered
    by_contra none
    obtain ⟨order, isOrder, -, -⟩ := perm_of_findCycle? (by simpa using none)
    rw [unordered] at isOrder
    cases isOrder
  · intro found
    obtain ⟨place, circle⟩ := isSome_findCycle?_iff.mp found
    exact Option.eq_none_iff_forall_ne_some.mpr fun order isOrder =>
      not_transGen_of_dependencyOrder? isOrder place circle

end Tables

end SchemaCompiler.Dependency
