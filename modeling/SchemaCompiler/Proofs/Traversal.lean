/-
**Traversals that may fail.**

A list is traversed item by item, and the first failure ends the traversal.

* `mapM_eq_ok_iff` — a traversal succeeds with the results of the items, in order.
* `forall₂_map`, `forall₂_filterMap` — items are matched with their results.
-/

import Mathlib.Data.List.Forall2

namespace SchemaCompiler.Traversal

variable {α β ε : Type} {f : α → Except ε β}

/-- **A traversal succeeds** exactly with a list that holds the result of each item. -/
theorem mapM_eq_ok_iff {items : List α} {results : List β} :
    items.mapM f = .ok results ↔
      List.Forall₂ (fun item result => f item = .ok result) items results := by
  induction items generalizing results with
  | nil =>
    rw [List.mapM_nil, List.forall₂_nil_left_iff]
    exact ⟨fun same => (Except.ok.inj same).symm, fun same => same ▸ rfl⟩
  | cons item rest ih =>
    rw [List.mapM_cons, List.forall₂_cons_left_iff]
    cases first : f item with
    | error cause => simp [bind, Except.bind]
    | ok result =>
      cases others : rest.mapM f with
      | error cause =>
        simp only [bind, Except.bind, reduceCtorEq, false_iff]
        rintro ⟨_, tail, _, matched, _⟩
        rw [ih.mpr matched] at others
        cases others
      | ok tail =>
        constructor
        · intro same
          exact ⟨result, tail, rfl, ih.mp others, (Except.ok.inj same).symm⟩
        · rintro ⟨_, otherTail, same, matched, rfl⟩
          cases same
          rw [ih.mpr matched] at others
          cases others
          rfl

/-- A traversal of items that all succeed succeeds. -/
theorem exists_mapM_eq_ok {items : List α} (succeed : ∀ item ∈ items, ∃ result, f item = .ok result) :
    ∃ results, items.mapM f = .ok results := by
  induction items with
  | nil => exact ⟨[], rfl⟩
  | cons item rest ih =>
    obtain ⟨result, first⟩ := succeed item List.mem_cons_self
    obtain ⟨results, others⟩ := ih fun other inRest => succeed other (List.mem_cons_of_mem _ inRest)
    exact ⟨result :: results, mapM_eq_ok_iff.mpr (.cons first (mapM_eq_ok_iff.mp others))⟩

/-- What is made from an outcome is a success exactly when the outcome is one. -/
theorem return_eq_ok_iff {γ : Type} {outcome : Except ε β} {make : β → γ} {made : γ} :
    (do let result ← outcome; return make result) = Except.ok made ↔
      ∃ result, outcome = .ok result ∧ made = make result := by
  cases outcome with
  | error cause => simp [bind, Except.bind]
  | ok result => simp [bind, Except.bind, pure, Except.pure, eq_comm]

theorem map_eq_ok_iff {γ : Type} {make : β → γ} {outcome : Except ε β} {made : γ} :
    outcome.map make = .ok made ↔ ∃ result, outcome = .ok result ∧ make result = made := by
  cases outcome <;> simp [Except.map]

/-- Wording a failure otherwise makes no success of it. -/
theorem eq_ok_of_mapError {ε' : Type} {word : ε → ε'} {outcome : Except ε β} {result : β}
    (same : outcome.mapError word = .ok result) : outcome = .ok result := by
  cases outcome with
  | error cause => cases same
  | ok other => exact congrArg Except.ok (Except.ok.inj same)

/-- Wording the failure of a traversal otherwise is wording the failure of each item otherwise. -/
theorem mapM_mapError {ε' : Type} (word : ε → ε') (items : List α) :
    (items.mapM f).mapError word = items.mapM fun item => (f item).mapError word := by
  induction items with
  | nil => rfl
  | cons item rest ih =>
    rw [List.mapM_cons, List.mapM_cons, ← ih]
    cases f item with
    | error cause => rfl
    | ok result => cases rest.mapM f <;> rfl

theorem return_mapError {γ ε' : Type} (word : ε → ε') (outcome : Except ε β) (make : β → γ) :
    (do let result ← outcome; return make result : Except ε γ).mapError word =
      do let result ← outcome.mapError word; return make result := by
  cases outcome <;> rfl

/-- What is made from a success is a success. -/
theorem exists_return_eq_ok {γ : Type} {outcome : Except ε β} (make : β → γ)
    (succeeds : ∃ result, outcome = .ok result) :
    ∃ made, (do let result ← outcome; return make result) = Except.ok made := by
  obtain ⟨result, rfl⟩ := succeeds
  exact ⟨make result, rfl⟩

/-- What is matched with items is matched with one of them each. -/
theorem exists_of_forall₂ {R : α → β → Prop} {items : List α} {results : List β}
    (matched : List.Forall₂ R items results) {result : β} (member : result ∈ results) :
    ∃ item ∈ items, R item result := by
  induction matched with
  | nil => cases member
  | cons first _ ih =>
    rcases List.mem_cons.mp member with rfl | inRest
    · exact ⟨_, List.mem_cons_self, first⟩
    · obtain ⟨item, isItem, found⟩ := ih inRest
      exact ⟨item, List.mem_cons_of_mem _ isItem, found⟩

/-- Items are matched with what is made of each of them. -/
theorem forall₂_map {R : α → β → Prop} {make : α → β} {items : List α}
    (each : ∀ item ∈ items, R item (make item)) : List.Forall₂ R items (items.map make) :=
  List.forall₂_map_right_iff.mpr (List.forall₂_same.mpr each)

/-- A list whose items are changed stays as it is when every item does. -/
theorem map_eq_self_iff {change : α → α} {items : List α} :
    items.map change = items ↔ ∀ item ∈ items, change item = item := by
  simpa using List.map_inj_left (f := change) (g := fun item => item) (l := items)

/-- Items that all have a result are matched with their results. -/
theorem forall₂_filterMap {f : α → Option β} {items : List α}
    (defined : ∀ item ∈ items, ∃ result, f item = some result) :
    List.Forall₂ (fun item result => f item = some result) items
      (items.filterMap f) := by
  induction items with
  | nil => exact .nil
  | cons item rest ih =>
    obtain ⟨result, found⟩ := defined item List.mem_cons_self
    rw [List.filterMap_cons_some found]
    exact .cons found (ih fun other inRest => defined other (List.mem_cons_of_mem _ inRest))

end SchemaCompiler.Traversal
