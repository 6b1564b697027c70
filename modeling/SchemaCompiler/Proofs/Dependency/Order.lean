/-
**The order of dependencies.**

`Dependency.emit` puts places out one after the other, each when all its dependencies are out.

* `readyOrder_emit` — whatever comes out comes out after its dependencies.
* `perm_emit` — everything comes out when no chain of dependencies goes on forever.
* `ReadyOrder.precedes` — in such an order a dependency stands in front of what depends on it.
-/

import Mathlib.Data.List.Nodup
import Mathlib.Order.WellFounded
import SchemaCompiler.Schema.Dependency

namespace SchemaCompiler.Dependency

variable {edges : Nat → List Nat}

/-! ### Orders in which everything is ready -/

/-- Every place of a list has its dependencies among the places put out before it: the given ones
and those in front of it. -/
def ReadyOrder (edges : Nat → List Nat) : List Nat → List Nat → Prop
  | _, [] => True
  | emitted, place :: rest =>
    (∀ other ∈ edges place, other ∈ emitted) ∧ ReadyOrder edges (place :: emitted) rest

/-- A dependency was put out before or stands in front of what depends on it. -/
theorem ReadyOrder.precedes {emitted order : List Nat} (ready : ReadyOrder edges emitted order)
    {place other : Nat} (member : place ∈ order) (depends : other ∈ edges place) :
    other ∈ emitted ∨ [other, place].Sublist order := by
  induction order generalizing emitted with
  | nil => simp at member
  | cons first rest ih =>
    obtain ⟨firstReady, restReady⟩ := ready
    rcases List.mem_cons.mp member with isFirst | inRest
    · subst isFirst
      exact .inl (firstReady other depends)
    · rcases ih restReady inRest with earlier | inFront
      · rcases List.mem_cons.mp earlier with isFirst | before
        · subst isFirst
          exact .inr (List.Sublist.cons_cons _ (List.singleton_sublist.mpr inRest))
        · exact .inl before
      · exact .inr (inFront.cons first)

theorem pending_eq_zero_iff {emitted : List Nat} {place : Nat} :
    pending edges emitted place = 0 ↔ ∀ other ∈ edges place, other ∈ emitted := by
  simp [pending, List.countP_eq_zero]

/-- **Everything is put out after its dependencies.** -/
theorem readyOrder_emit (edges : Nat → List Nat) (emitted remaining : List Nat) :
    ReadyOrder edges emitted (emit edges emitted remaining) := by
  induction emitted, remaining using emit.induct edges with
  | case1 emitted remaining blocked =>
    rw [emit, blocked]
    trivial
  | case2 emitted remaining place found ih =>
    rw [emit, found]
    refine ⟨?_, ih⟩
    have ready := List.find?_some found
    exact pending_eq_zero_iff.mp (by simpa using ready)

/-! ### Everything comes out -/

/-- A place from which no chain of dependencies goes on forever. -/
def Grounded (edges : Nat → List Nat) : Nat → Prop :=
  Acc fun other place => other ∈ edges place

/-- A list that holds a grounded place holds one without dependencies in the list. -/
theorem Grounded.exists_minimal {place : Nat} (grounded : Grounded edges place)
    {places : List Nat} (member : place ∈ places) :
    ∃ least ∈ places, ∀ other ∈ edges least, other ∉ places := by
  induction grounded with
  | intro place _ ih =>
    by_cases below : ∃ other ∈ edges place, other ∈ places
    · obtain ⟨other, depends, inPlaces⟩ := below
      exact ih other depends inPlaces
    · exact ⟨place, member, fun other depends inPlaces => below ⟨other, depends, inPlaces⟩⟩

/-- **All places come out** when they are grounded and depend only on one another and on what is
out already. -/
theorem perm_emit {emitted remaining : List Nat}
    (grounded : ∀ place ∈ remaining, Grounded edges place)
    (closed : ∀ place ∈ remaining, ∀ other ∈ edges place, other ∈ emitted ∨ other ∈ remaining) :
    (emit edges emitted remaining).Perm remaining := by
  induction emitted, remaining using emit.induct edges with
  | case1 emitted remaining blocked =>
    -- Nothing is ready, so nothing is left: a least place that is left would be ready.
    have empty : remaining = [] := by
      refine List.eq_nil_iff_forall_not_mem.mpr fun place member => ?_
      obtain ⟨least, inRemaining, free⟩ := (grounded place member).exists_minimal member
      have ready : pending edges emitted least = 0 := pending_eq_zero_iff.mpr fun other depends =>
        (closed least inRemaining other depends).resolve_right (free other depends)
      have notReady := List.find?_eq_none.mp blocked least inRemaining
      exact notReady (by simpa using ready)
    rw [emit, blocked, empty]
  | case2 emitted remaining place found ih =>
    have member := List.mem_of_find?_eq_some found
    have rest : (emit edges (place :: emitted) (remaining.erase place)).Perm
        (remaining.erase place) := by
      refine ih (fun other inRest => grounded other (List.mem_of_mem_erase inRest)) ?_
      intro other inRest target depends
      by_cases same : target = place
      · exact .inl (List.mem_cons.mpr (.inl same))
      · rcases closed other (List.mem_of_mem_erase inRest) target depends with out | left
        · exact .inl (List.mem_cons_of_mem _ out)
        · exact .inr ((List.mem_erase_of_ne same).mpr left)
    rw [emit, found]
    exact (rest.cons place).trans (List.perm_cons_erase member).symm

end SchemaCompiler.Dependency
