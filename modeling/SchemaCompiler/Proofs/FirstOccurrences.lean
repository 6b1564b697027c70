/-
**First occurrences.**

Where repetitions are erased from a list, each item is kept where it occurs first. So every item is
kept once, and items stand in the order in which they came up.

* `firstOccurrences_eraseDups` — what is kept.
* `eraseDups_filter` — what is kept of a selection.
-/

import Mathlib.Data.List.Basic
import Mathlib.Data.List.Induction

namespace SchemaCompiler

variable {α : Type} [BEq α]

/-- The items of a list, ordered by the places where they occur first. -/
structure FirstOccurrences (items kept : List α) : Prop where
  members : ∀ item, item ∈ kept ↔ item ∈ items
  ordered : kept.Pairwise fun item later => items.idxOf item < items.idxOf later

theorem FirstOccurrences.nodup {items kept : List α} (first : FirstOccurrences items kept) :
    kept.Nodup := by
  refine first.ordered.imp fun {item later} inOrder same => ?_
  rw [same] at inOrder
  exact Nat.lt_irrefl _ inOrder

variable [LawfulBEq α]

/-- **Erasing repetitions keeps the first occurrences.** -/
theorem firstOccurrences_eraseDups (items : List α) : FirstOccurrences items items.eraseDups := by
  refine ⟨fun _ => List.mem_eraseDups, ?_⟩
  -- The list grows at its end: an item is added exactly when it is new, and comes after the others.
  induction items using List.reverseRecOn with
  | nil => exact List.Pairwise.nil
  | append_singleton before item ih =>
    have samePlace : ∀ {earlier}, earlier ∈ before.eraseDups →
        (before ++ [item]).idxOf earlier = before.idxOf earlier := fun member =>
      List.idxOf_append_of_mem (List.mem_eraseDups.mp member)
    have earlierOrdered : before.eraseDups.Pairwise fun a b =>
        (before ++ [item]).idxOf a < (before ++ [item]).idxOf b := by
      refine ih.imp_of_mem fun {a b} aMember bMember inOrder => ?_
      rwa [samePlace aMember, samePlace bMember]
    rw [List.eraseDups_append]
    by_cases seen : item ∈ before
    · have nothing : [item].removeAll before = [] := by simp [List.removeAll, seen]
      rw [nothing, List.eraseDups_nil, List.append_nil]
      exact earlierOrdered
    · have new : ([item].removeAll before).eraseDups = [item] := by
        simp [List.removeAll, seen, List.eraseDups_cons]
      rw [new]
      refine List.pairwise_append.mpr ⟨earlierOrdered, List.pairwise_singleton _ _, ?_⟩
      intro earlier earlierMember last isLast
      rw [List.mem_singleton.mp isLast, samePlace earlierMember, List.idxOf_append_of_notMem seen]
      exact Nat.lt_add_right _ (List.idxOf_lt_length_iff.mpr (List.mem_eraseDups.mp earlierMember))

/-- No item is left twice where repetitions are erased. -/
theorem nodup_eraseDups (items : List α) : items.eraseDups.Nodup :=
  (firstOccurrences_eraseDups items).nodup

/-- Items without repetitions are all kept. -/
theorem eraseDups_of_nodup {items : List α} (distinct : items.Nodup) : items.eraseDups = items := by
  induction items with
  | nil => rfl
  | cons first rest ih =>
    obtain ⟨unseen, distinctRest⟩ := List.nodup_cons.mp distinct
    have kept : rest.filter (fun item => !item == first) = rest :=
      List.filter_eq_self.mpr fun item member => by
        simpa using fun same : item = first => unseen (same ▸ member)
    rw [List.eraseDups_cons, kept, ih distinctRest]

/-- Items that stand in front already are erased. -/
theorem eraseDups_append_of_subset {items others : List α} (known : others ⊆ items) :
    (items ++ others).eraseDups = items.eraseDups := by
  have nothing : others.removeAll items = [] := by
    refine List.filter_eq_nil_iff.mpr fun item member => ?_
    simpa using known member
  rw [List.eraseDups_append, nothing, List.eraseDups_nil, List.append_nil]

/-- The first of equal items that pass a test is the first that passes it. -/
theorem eraseDups_filter (keep : α → Bool) (items : List α) :
    (items.filter keep).eraseDups = items.eraseDups.filter keep := by
  match items with
  | [] => rfl
  | first :: rest =>
    have others := eraseDups_filter keep (rest.filter fun item => !item == first)
    have swapped : (rest.filter fun item => !item == first).filter keep =
        (rest.filter keep).filter fun item => !item == first := by
      rw [List.filter_filter, List.filter_filter]
      exact List.filter_congr fun _ _ => Bool.and_comm ..
    rw [List.eraseDups_cons, List.filter_cons, List.filter_cons, ← others, swapped]
    by_cases kept : keep first = true
    · rw [if_pos kept, if_pos kept, List.eraseDups_cons]
    · -- The first item is not kept, and so none of those that are kept is equal to it.
      have absent : (rest.filter keep).filter (fun item => !item == first) = rest.filter keep := by
        refine List.filter_eq_self.mpr fun item member => ?_
        have differ : item ≠ first := fun same => kept (same ▸ (List.mem_filter.mp member).2)
        simpa using differ
      rw [if_neg kept, if_neg kept, absent]
termination_by items.length
decreasing_by exact Nat.lt_succ_of_le (List.length_filter_le _ _)

end SchemaCompiler
