/-
**The least order of dependencies.**

There may be many orders in which every place stands after its dependencies. Putting out the least
ready place again and again gives the one that is least in lexicographic order, so that places keep
their declared order as far as dependencies allow.

* `isDependencyOrder_iff` — such an order holds every place once, each when it is ready.
* `emit_le` — what comes out is not greater than any other ready order of the same places.
* `dependencyOrder?_eq_some_iff` — the order of tables is the least of their dependency orders.
-/

import Mathlib.Data.List.Lex
import Mathlib.Order.Bounds.Basic
import SchemaCompiler.Proofs.Dependency.Circle

namespace SchemaCompiler.Dependency

variable {edges : Nat → List Nat}

/-! ### Dependency orders -/

/-- An order of tables: every place once, with each table after those that it depends on. -/
structure IsDependencyOrder (tables : List Table) (order : List Nat) : Prop where
  perm : order.Perm (List.range tables.length)
  before : ∀ place other, DependsOn tables place other → [other, place].Sublist order

/-- An order without repetitions is ready when each dependency was put out before or stands in front
of what depends on it. -/
theorem readyOrder_of_precedes {emitted order : List Nat} (distinct : order.Nodup)
    (precedes : ∀ place ∈ order, ∀ other ∈ edges place,
      other ∈ emitted ∨ [other, place].Sublist order) : ReadyOrder edges emitted order := by
  induction order generalizing emitted with
  | nil => trivial
  | cons first rest ih =>
    obtain ⟨notAgain, restDistinct⟩ := List.nodup_cons.mp distinct
    refine ⟨fun other depends => ?_, ih restDistinct fun place inRest other depends => ?_⟩
    · rcases precedes first List.mem_cons_self other depends with earlier | inFront
      · exact earlier
      · -- Nothing stands in front of the first place.
        cases inFront with
        | cons _ inRest => exact absurd (inRest.subset (by simp)) notAgain
        | cons_cons _ inRest => exact absurd (inRest.subset (by simp)) notAgain
    · rcases precedes place (List.mem_cons_of_mem _ inRest) other depends with earlier | inFront
      · exact .inl (List.mem_cons_of_mem _ earlier)
      · cases inFront with
        | cons _ stillInFront => exact .inr stillInFront
        | cons_cons _ _ => exact .inl List.mem_cons_self

/-- **A dependency order** holds every place once, each when its dependencies are out. -/
theorem isDependencyOrder_iff {tables : List Table} {order : List Nat} :
    IsDependencyOrder tables order ↔
      order.Perm (List.range tables.length) ∧ ReadyOrder (dependencies tables) [] order := by
  constructor
  · rintro ⟨perm, before⟩
    refine ⟨perm, readyOrder_of_precedes (perm.nodup_iff.mpr List.nodup_range) ?_⟩
    exact fun place _ other depends => .inr (before place other (mem_dependencies_iff.mp depends))
  · rintro ⟨perm, ready⟩
    refine ⟨perm, fun place other depends => ?_⟩
    have inside : place ∈ order := by
      obtain ⟨-, t, atPlace, -⟩ := depends
      exact perm.mem_iff.mpr (List.mem_range.mpr (List.getElem?_eq_some_iff.mp atPlace).1)
    exact (ready.precedes inside (mem_dependencies_iff.mpr depends)).resolve_left List.not_mem_nil

/-! ### The least place first -/

/-- What is found first in an increasing list is the least of what could be found. -/
theorem isLeast_of_find? {places : List Nat} {wanted : Nat → Bool} {place : Nat}
    (increasing : places.Pairwise (· < ·)) (found : places.find? wanted = some place) :
    IsLeast {other | other ∈ places ∧ wanted other = true} place := by
  obtain ⟨isWanted, front, back, rfl, unwanted⟩ := List.find?_eq_some_iff_append.mp found
  refine ⟨⟨by simp, isWanted⟩, fun other ⟨member, otherWanted⟩ => ?_⟩
  obtain ⟨-, fromPlace, -⟩ := List.pairwise_append.mp increasing
  rcases List.mem_append.mp member with inFront | fromHere
  · have refused := unwanted other inFront
    rw [otherWanted] at refused
    cases refused
  · rcases List.mem_cons.mp fromHere with same | inBack
    · exact Nat.le_of_eq same.symm
    · exact Nat.le_of_lt (List.rel_of_pairwise_cons fromPlace inBack)

/-- The place that is found comes out, and then the others do. -/
theorem emit_of_find? {emitted remaining : List Nat} (place : Nat)
    (found : remaining.find? (fun place => pending edges emitted place == 0) = some place) :
    emit edges emitted remaining = place :: emit edges (place :: emitted) (remaining.erase place) := by
  rw [emit, found]

/-- Nothing comes out when no place is found. -/
theorem emit_of_find?_eq_none {emitted remaining : List Nat}
    (blocked : remaining.find? (fun place => pending edges emitted place == 0) = none) :
    emit edges emitted remaining = [] := by
  rw [emit, blocked]

/-- **No other ready order is less** than what comes out. -/
theorem emit_le {emitted remaining order : List Nat} (increasing : remaining.Pairwise (· < ·))
    (perm : order.Perm remaining) (ready : ReadyOrder edges emitted order) :
    emit edges emitted remaining ≤ order := by
  induction emitted, remaining using emit.induct edges generalizing order with
  | case1 emitted remaining blocked =>
    rw [emit_of_find?_eq_none blocked]
    exact not_lt.mp (List.not_lt_nil order)
  | case2 emitted remaining place found ih =>
    have member := List.mem_of_find?_eq_some found
    obtain ⟨first, rest, rfl⟩ : ∃ first rest, order = first :: rest :=
      List.exists_cons_of_ne_nil fun empty => List.not_mem_nil (empty ▸ perm.mem_iff.mpr member)
    obtain ⟨firstReady, restReady⟩ := ready
    have firstZero : pending edges emitted first = 0 := pending_eq_zero_iff.mpr firstReady
    have least : place ≤ first := (isLeast_of_find? increasing found).2
      ⟨perm.mem_iff.mp List.mem_cons_self, by simpa using firstZero⟩
    rw [emit_of_find? _ found]
    rcases Nat.eq_or_lt_of_le least with same | less
    · subst same
      have restPerm : rest.Perm (remaining.erase place) :=
        (List.perm_cons place).mp (perm.trans (List.perm_cons_erase member))
      exact List.cons_le_cons place (ih (increasing.sublist List.erase_sublist) restPerm restReady)
    · exact le_of_lt (List.Lex.rel less)

/-! ### The order of tables -/

section Tables

variable {tables : List Table} {order : List Nat}

/-- Tables with a dependency order are put in order. -/
theorem isSome_dependencyOrder? (isOrder : IsDependencyOrder tables order) :
    (dependencyOrder? tables).isSome = true := by
  obtain ⟨perm, ready⟩ := isDependencyOrder_iff.mp isOrder
  have all : (emit (dependencies tables) [] (List.range tables.length)).Perm
      (List.range tables.length) := by
    refine perm_emit (fun place inside => ?_) fun place _ other depends => ?_
    · exact ready.grounded (by simp) place (perm.mem_iff.mpr inside)
    · exact .inr (List.mem_range.mpr (lt_of_mem_dependencies depends))
  have complete := all.length_eq
  rw [List.length_range] at complete
  simp [dependencyOrder?, complete]

/-- What tables are put in is a dependency order, and no other one is less. -/
theorem isLeast_of_dependencyOrder? (isOrder : dependencyOrder? tables = some order) :
    IsLeast {order | IsDependencyOrder tables order} order := by
  refine ⟨isDependencyOrder_iff.mpr (perm_of_dependencyOrder? isOrder), fun other isOther => ?_⟩
  obtain ⟨perm, ready⟩ := isDependencyOrder_iff.mp isOther
  simp only [dependencyOrder?] at isOrder
  split at isOrder
  · cases isOrder
    exact emit_le List.pairwise_lt_range perm ready
  · cases isOrder

/-- **The order of tables** is the least of their dependency orders. -/
theorem dependencyOrder?_eq_some_iff :
    dependencyOrder? tables = some order ↔
      IsLeast {order | IsDependencyOrder tables order} order := by
  refine ⟨isLeast_of_dependencyOrder?, fun least => ?_⟩
  obtain ⟨found, isFound⟩ := Option.isSome_iff_exists.mp (isSome_dependencyOrder? least.1)
  rw [isFound, (isLeast_of_dependencyOrder? isFound).unique least]

end Tables

end SchemaCompiler.Dependency
