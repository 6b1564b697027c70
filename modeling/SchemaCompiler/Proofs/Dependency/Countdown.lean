/-
**The order of dependencies by counting down.**

The order can be found without looking for a ready place each time. Every place has a counter, which
starts as the number of its dependencies. The least place of those at zero is put out, and then a
loop over all places takes one off the counters of those that depend on it; a place whose counter
comes to zero may be put out from then on.

`Countdown.next?` is one moment of that: a place is put out, or the loop goes on by one place.

* `Countdown.Sound` — each counter is the number of dependencies that are not out yet, and the places
  that may be put out are those at zero that are not out. Every moment keeps it (`Sound.next`).
* `exists_reaches_emit` — counting down comes to an end, with what `emit` puts out.
* `dependencyOrder?_counts_down` — the order of tables is the least dependency order, there is one
  whenever tables have a dependency order, and counting down finds it with no counter below zero.
-/

import Mathlib.Data.Finset.Max
import Mathlib.Logic.Function.Basic
import Mathlib.Logic.Relation
import SchemaCompiler.Proofs.Dependency.LeastOrder

namespace SchemaCompiler.Dependency

/-! ### Counting down -/

/-- How far the counting is: the places that are out, latest first, the counter of each place, the
places that may be put out, and those that the loop for the latest place has not come to. -/
structure Countdown where
  emitted : List Nat
  counter : Nat → Int
  ready : Finset Nat
  unvisited : List Nat

namespace Countdown

/-- Nothing is out, and the counters are the numbers of dependencies. -/
def start (edges : Nat → List Nat) (size : Nat) : Countdown where
  emitted := []
  counter place := (edges place).length
  ready := (Finset.range size).filter fun place => edges place = []
  unvisited := []

/-- A place is put out, and the loop over all places begins. -/
def putOut (s : Countdown) (size place : Nat) : Countdown where
  emitted := place :: s.emitted
  counter := s.counter
  ready := s.ready.erase place
  unvisited := List.range size

/-- One is taken off the counter of a place. -/
def countDown (s : Countdown) (place : Nat) : Countdown :=
  { s with
    counter := Function.update s.counter place (s.counter place - 1)
    ready := if s.counter place - 1 = 0 then insert place s.ready else s.ready }

/-- The loop comes to a place: its counter goes down when it depends on the latest place. -/
def visit (s : Countdown) (edges : Nat → List Nat) (place : Nat) (rest : List Nat) : Countdown :=
  let visited := if s.emitted.head?.any (edges place).contains then s.countDown place else s
  { visited with unvisited := rest }

/-- The next moment, when the counting has not come to its end. -/
def next? (edges : Nat → List Nat) (size : Nat) (s : Countdown) : Option Countdown :=
  match s.unvisited with
  | place :: rest => some (s.visit edges place rest)
  | [] => if nonempty : s.ready.Nonempty then some (s.putOut size (s.ready.min' nonempty)) else none

/-- A moment comes after another one, or is the same. -/
def Reaches (edges : Nat → List Nat) (size : Nat) : Countdown → Countdown → Prop :=
  Relation.ReflTransGen fun s t => s.next? edges size = some t

/-- The places that are out for the counter of a place: all of them, except the latest one when the
loop has not come to the place. -/
def counted (s : Countdown) (place : Nat) : List Nat :=
  if place ∈ s.unvisited then s.emitted.tail else s.emitted

/-- What holds of every moment. -/
structure Sound (edges : Nat → List Nat) (size : Nat) (s : Countdown) : Prop where
  counter : ∀ place, s.counter place = pending edges (s.counted place) place
  ready : ∀ place, place ∈ s.ready ↔ place < size ∧ place ∉ s.emitted ∧ s.counter place = 0
  distinct : s.emitted.Nodup
  closed : ∀ place ∈ s.emitted, ∀ other ∈ edges place, other ∈ s.emitted.tail
  unvisited : s.unvisited.Nodup
  inside : ∀ place ∈ s.unvisited, place < size

end Countdown

/-! ### Awaited dependencies -/

variable {edges : Nat → List Nat}

/-- A dependency that comes out is awaited no longer. -/
theorem pending_cons_of_mem {emitted : List Nat} {place latest : Nat}
    (distinct : (edges place).Nodup) (depends : latest ∈ edges place) (isNew : latest ∉ emitted) :
    pending edges emitted place = pending edges (latest :: emitted) place + 1 := by
  have apart := List.perm_cons_erase depends
  have others : ∀ other ∈ (edges place).erase latest,
      (!emitted.contains other) = true ↔ (!(latest :: emitted).contains other) = true := by
    intro other member
    have different : other ≠ latest := (distinct.mem_erase_iff.mp member).1
    simp [different]
  have still := List.countP_congr others
  rw [pending, pending, apart.countP_eq, apart.countP_eq, List.countP_cons, List.countP_cons, still]
  simp [isNew]

theorem pending_cons_of_notMem {emitted : List Nat} {place latest : Nat}
    (independent : latest ∉ edges place) :
    pending edges (latest :: emitted) place = pending edges emitted place := by
  refine List.countP_congr fun other member => ?_
  have different : other ≠ latest := fun same => independent (same ▸ member)
  simp [different]

theorem pending_nil (edges : Nat → List Nat) (place : Nat) :
    pending edges [] place = (edges place).length := by
  simp [pending]

/-! ### What every moment keeps -/

namespace Countdown

variable {size : Nat} {s t : Countdown}

theorem next?_of_unvisited {place : Nat} {rest : List Nat} (unvisited : s.unvisited = place :: rest) :
    s.next? edges size = some (s.visit edges place rest) := by
  simp [next?, unvisited]

theorem next?_of_isLeast {place : Nat} (idle : s.unvisited = [])
    (least : IsLeast (s.ready : Set Nat) place) :
    s.next? edges size = some (s.putOut size place) := by
  have nonempty : s.ready.Nonempty := ⟨place, least.1⟩
  have same : s.ready.min' nonempty = place := (s.ready.isLeast_min' nonempty).unique least
  simp [next?, idle, nonempty, same]

@[simp] theorem emitted_visit (place : Nat) (rest : List Nat) :
    (s.visit edges place rest).emitted = s.emitted := by
  unfold visit countDown
  split <;> rfl

theorem Sound.start (edges : Nat → List Nat) (size : Nat) : (start edges size).Sound edges size where
  counter place := by simp [Countdown.start, counted, pending_nil]
  ready place := by simp [Countdown.start]
  distinct := List.nodup_nil
  closed := by simp [Countdown.start]
  unvisited := List.nodup_nil
  inside := by simp [Countdown.start]

/-- Outside the loop every counter has counted all places that are out. -/
theorem Sound.counter_of_idle (sound : s.Sound edges size) (idle : s.unvisited = []) (place : Nat) :
    s.counter place = pending edges s.emitted place := by
  rw [sound.counter, counted, idle, if_neg List.not_mem_nil]

theorem Sound.putOut (outside : ∀ place, size ≤ place → edges place = [])
    (sound : s.Sound edges size) (idle : s.unvisited = []) {place : Nat} (isReady : place ∈ s.ready) :
    (s.putOut size place).Sound edges size := by
  obtain ⟨inside, isNew, atZero⟩ := (sound.ready place).mp isReady
  rw [sound.counter_of_idle idle] at atZero
  have free : ∀ other ∈ edges place, other ∈ s.emitted :=
    pending_eq_zero_iff.mp (Int.natCast_eq_zero.mp atZero)
  refine ⟨fun other => ?_, fun other => ?_, List.nodup_cons.mpr ⟨isNew, sound.distinct⟩, ?_,
    List.nodup_range, fun other => List.mem_range.mp⟩
  · show s.counter other = _
    rw [sound.counter_of_idle idle, counted]
    split
    · rfl
    · rename_i visited
      have beyond : edges other = [] := outside other (by simpa [Countdown.putOut] using visited)
      simp [pending, beyond]
  · show other ∈ s.ready.erase place ↔ _ ∧ other ∉ place :: s.emitted ∧ s.counter other = 0
    rw [Finset.mem_erase, sound.ready, List.mem_cons, not_or]
    tauto
  · intro earlier member other depends
    rcases List.mem_cons.mp member with same | before
    · exact free other (same ▸ depends)
    · exact List.mem_of_mem_tail (sound.closed earlier before other depends)

/-- A place that depends on the latest one is not out. -/
theorem Sound.notMem_emitted (sound : s.Sound edges size) {latest place : Nat} {before : List Nat}
    (out : s.emitted = latest :: before) (depends : latest ∈ edges place) : place ∉ s.emitted := by
  intro member
  have again := sound.closed place member latest depends
  have distinct := sound.distinct
  rw [out] at again distinct
  exact (List.nodup_cons.mp distinct).1 again

/-- The loop comes to a place that depends on the latest one. -/
theorem Sound.visit_of_mem (known : ∀ place, (edges place).Nodup) (sound : s.Sound edges size)
    {latest place : Nat} {before rest : List Nat} (out : s.emitted = latest :: before)
    (unvisited : s.unvisited = place :: rest) (depends : latest ∈ edges place) :
    (s.visit edges place rest).Sound edges size := by
  have isNew : place ∉ s.emitted := sound.notMem_emitted out depends
  obtain ⟨notAgain, distinctRest⟩ := List.nodup_cons.mp (unvisited ▸ sound.unvisited)
  have latestNew : latest ∉ before := (List.nodup_cons.mp (out ▸ sound.distinct)).1
  have awaited : s.counter place = pending edges (latest :: before) place + 1 := by
    rw [sound.counter, counted, unvisited, if_pos List.mem_cons_self, out, List.tail_cons,
      pending_cons_of_mem (known place) depends latestNew, Int.natCast_add, Int.natCast_one]
  have form : s.visit edges place rest = { s.countDown place with unvisited := rest } := by
    simp [visit, out, depends]
  rw [form]
  refine ⟨fun other => ?_, fun other => ?_, sound.distinct, sound.closed, distinctRest,
    fun other member => sound.inside other (by simp [unvisited, member])⟩
  · by_cases same : other = place
    · subst same
      simp [countDown, counted, notAgain, awaited, out]
    · simp [countDown, counted, same, sound.counter other, unvisited]
  · by_cases same : other = place
    · subst same
      have inside : other < size := sound.inside other (by simp [unvisited])
      have wasNotReady : other ∉ s.ready := fun member => by
        have atZero := ((sound.ready other).mp member).2.2
        omega
      by_cases atZero : s.counter other - 1 = 0 <;>
        simp [countDown, atZero, inside, isNew, wasNotReady]
    · by_cases atZero : s.counter place - 1 = 0 <;>
        simp [countDown, atZero, same, sound.ready other]

/-- The loop comes to a place that does not depend on the latest one. -/
theorem Sound.visit_of_notMem (sound : s.Sound edges size) {place : Nat} {rest : List Nat}
    (unvisited : s.unvisited = place :: rest)
    (independent : ∀ latest ∈ s.emitted.head?, latest ∉ edges place) :
    (s.visit edges place rest).Sound edges size := by
  have form : s.visit edges place rest = { s with unvisited := rest } := by
    cases out : s.emitted with
    | nil => simp [visit, out]
    | cons latest before => simp [visit, out, independent latest (by simp [out])]
  have sameCount : pending edges s.emitted.tail place = pending edges s.emitted place := by
    cases out : s.emitted with
    | nil => rfl
    | cons latest before => exact (pending_cons_of_notMem (independent latest (by simp [out]))).symm
  obtain ⟨notAgain, distinctRest⟩ := List.nodup_cons.mp (unvisited ▸ sound.unvisited)
  rw [form]
  refine ⟨fun other => ?_, sound.ready, sound.distinct, sound.closed, distinctRest,
    fun other member => sound.inside other (by simp [unvisited, member])⟩
  by_cases same : other = place
  · subst same
    simp [sound.counter other, counted, unvisited, notAgain, sameCount]
  · simp [sound.counter other, counted, unvisited, same]

/-- **Every moment keeps the counters right**, for places whose dependencies are listed once and are
none beyond the given size. -/
theorem Sound.next (known : ∀ place, (edges place).Nodup)
    (outside : ∀ place, size ≤ place → edges place = []) (sound : s.Sound edges size)
    (moment : s.next? edges size = some t) : t.Sound edges size := by
  cases unvisited : s.unvisited with
  | nil =>
    simp only [next?, unvisited] at moment
    split at moment
    · cases moment
      exact sound.putOut outside unvisited (s.ready.min'_mem _)
    · cases moment
  | cons place rest =>
    rw [next?_of_unvisited unvisited] at moment
    cases moment
    by_cases depends : ∃ latest ∈ s.emitted.head?, latest ∈ edges place
    · obtain ⟨latest, isLatest, member⟩ := depends
      obtain ⟨before, out⟩ := List.head?_eq_some_iff.mp isLatest
      exact sound.visit_of_mem known out unvisited member
    · exact sound.visit_of_notMem unvisited fun latest isLatest member =>
        depends ⟨latest, isLatest, member⟩

theorem Sound.reaches (known : ∀ place, (edges place).Nodup)
    (outside : ∀ place, size ≤ place → edges place = []) (sound : s.Sound edges size)
    (run : Reaches edges size s t) : t.Sound edges size := by
  induction run with
  | refl => exact sound
  | tail _ moment ih => exact ih.next known outside moment

/-- **No counter goes below zero.** -/
theorem Sound.counter_nonneg (sound : s.Sound edges size) (place : Nat) : 0 ≤ s.counter place := by
  rw [sound.counter]
  exact Int.natCast_nonneg _

/-! ### What comes out -/

/-- The loop comes to an end, and puts nothing out. -/
theorem exists_reaches_idle (s : Countdown) :
    ∃ t, Reaches edges size s t ∧ t.unvisited = [] ∧ t.emitted = s.emitted := by
  generalize visits : s.unvisited = places
  induction places generalizing s with
  | nil => exact ⟨s, .refl, visits, rfl⟩
  | cons place rest ih =>
    obtain ⟨t, run, idle, same⟩ := ih (s.visit edges place rest) rfl
    exact ⟨t, .head (next?_of_unvisited visits) run, idle, by simpa using same⟩

/-- The places that may be put out are those of the remaining ones that `emit` looks for. -/
theorem Sound.mem_ready_iff (sound : s.Sound edges size) (idle : s.unvisited = [])
    {remaining : List Nat} (left : ∀ place, place ∈ remaining ↔ place < size ∧ place ∉ s.emitted)
    (place : Nat) :
    place ∈ s.ready ↔ place ∈ remaining ∧ (pending edges s.emitted place == 0) = true := by
  rw [sound.ready, sound.counter_of_idle idle, left]
  simp [and_assoc]

/-- **Counting down comes to an end**, with the places that `emit` puts out. -/
theorem exists_reaches_emit (known : ∀ place, (edges place).Nodup)
    (outside : ∀ place, size ≤ place → edges place = []) {emitted remaining : List Nat}
    (sound : s.Sound edges size) (idle : s.unvisited = []) (out : s.emitted = emitted)
    (left : ∀ place, place ∈ remaining ↔ place < size ∧ place ∉ emitted)
    (increasing : remaining.Pairwise (· < ·)) :
    ∃ t, Reaches edges size s t ∧ t.next? edges size = none ∧
      t.emitted = (emit edges emitted remaining).reverse ++ emitted := by
  induction emitted, remaining using emit.induct edges generalizing s with
  | case1 emitted remaining blocked =>
    have noneReady : s.ready = ∅ := Finset.eq_empty_of_forall_notMem fun place isReady => by
      obtain ⟨member, free⟩ := (sound.mem_ready_iff idle (out ▸ left) place).mp isReady
      exact List.find?_eq_none.mp blocked place member (out ▸ free)
    rw [emit_of_find?_eq_none blocked]
    exact ⟨s, .refl, by simp [next?, idle, noneReady], out⟩
  | case2 emitted remaining place found ih =>
    have least : IsLeast (s.ready : Set Nat) place := by
      have readySet : (s.ready : Set Nat) =
          {other | other ∈ remaining ∧ (pending edges emitted other == 0) = true} := by
        ext other
        rw [Finset.mem_coe, sound.mem_ready_iff idle (out ▸ left), out]
        rfl
      exact readySet ▸ isLeast_of_find? increasing found
    obtain ⟨u, loop, idleAgain, outAgain⟩ : ∃ u, Reaches edges size (s.putOut size place) u ∧
        u.unvisited = [] ∧ u.emitted = (s.putOut size place).emitted := exists_reaches_idle _
    have run : Reaches edges size s u := .head (next?_of_isLeast idle least) loop
    have nowOut : u.emitted = place :: emitted := outAgain.trans (congrArg (place :: ·) out)
    have nowLeft : ∀ other, other ∈ remaining.erase place ↔
        other < size ∧ other ∉ place :: emitted := by
      intro other
      have distinct : remaining.Nodup := increasing.imp Nat.ne_of_lt
      rw [distinct.mem_erase_iff, left, List.mem_cons, not_or]
      tauto
    obtain ⟨t, further, ended, complete⟩ := ih (sound.reaches known outside run) idleAgain nowOut
      nowLeft (increasing.sublist List.erase_sublist)
    rw [emit_of_find? place found]
    exact ⟨t, run.trans further, ended, by simpa using complete⟩

end Countdown

/-! ### The order of tables -/

section Tables

theorem nodup_dependencies (tables : List Table) (place : Nat) :
    (dependencies tables place).Nodup := by
  unfold dependencies
  split
  · exact List.nodup_nil
  · exact List.nodup_range.filter _

/-- The moments of counting down the dependencies of tables. -/
def CountsDown (tables : List Table) : Countdown → Prop :=
  Countdown.Reaches (dependencies tables) tables.length
    (.start (dependencies tables) tables.length)

theorem CountsDown.sound {tables : List Table} {s : Countdown} (moment : CountsDown tables s) :
    s.Sound (dependencies tables) tables.length :=
  (Countdown.Sound.start _ _).reaches (nodup_dependencies tables)
    (fun _ => dependencies_eq_nil) moment

/-- **The order of tables is the least dependency order**, and there is one whenever tables have a
dependency order. It is what counting down the dependencies puts out, if that is all tables; no
counter ever goes below zero. -/
theorem dependencyOrder?_counts_down (tables : List Table) :
    (∀ order, dependencyOrder? tables = some order ↔
        IsLeast {order | IsDependencyOrder tables order} order) ∧
      ((∃ order, IsDependencyOrder tables order) → (dependencyOrder? tables).isSome = true) ∧
      (∀ s, CountsDown tables s → ∀ place, 0 ≤ s.counter place) ∧
      ∃ s, CountsDown tables s ∧ s.next? (dependencies tables) tables.length = none ∧
        dependencyOrder? tables =
          if s.emitted.length = tables.length then some s.emitted.reverse else none := by
  refine ⟨fun order => dependencyOrder?_eq_some_iff, fun ⟨order, isOrder⟩ =>
    isSome_dependencyOrder? isOrder, fun s moment => moment.sound.counter_nonneg, ?_⟩
  have noneOut : (Countdown.start (dependencies tables) tables.length).emitted = [] := rfl
  have allLeft : ∀ place, place ∈ List.range tables.length ↔
      place < tables.length ∧ place ∉ ([] : List Nat) := fun place => by simp
  obtain ⟨s, moment, ended, out⟩ := Countdown.exists_reaches_emit (nodup_dependencies tables)
    (fun _ => dependencies_eq_nil) (Countdown.Sound.start _ _) rfl noneOut allLeft
    List.pairwise_lt_range
  exact ⟨s, moment, ended, by simp [dependencyOrder?, out]⟩

end Tables

/-! ### Invoices, orders, customers and products -/

namespace Invoices

def key : Column :=
  { id := "k", name := "id", dataType := .integer, nullable := false, constraints := [.primaryKey] }

/-- A table with a relationship to each table of some ids. -/
def table (id : String) (targets : List String) : Table :=
  { id, name := id, columns := [key],
    relationships := targets.map fun target =>
      { id := target, sourceTableId := id, sourceColumnId := "k", targetTableId := target,
        targetColumnId := "k" } }

/-- Invoices stand first and depend on orders; customers refer to customers. -/
def tables : List Table :=
  [table "invoices" ["orders", "customers"], table "customers" ["customers"],
    table "orders" ["customers"], table "products" []]

theorem dependencyOrder?_tables : dependencyOrder? tables = some [1, 2, 0, 3] := by
  have out : emit (dependencies tables) [] [0, 1, 2, 3] = [1, 2, 0, 3] := by
    rw [emit_of_find? 1 (by decide), emit_of_find? 2 (by decide),
      emit_of_find? 0 (by decide), emit_of_find? 3 (by decide),
      emit_of_find?_eq_none (by decide)]
  have places : List.range tables.length = [0, 1, 2, 3] := by decide
  rw [dependencyOrder?, places, out]
  rfl

end Invoices

open Invoices in
/-- Invoices come before products although both could come last. -/
theorem dependencyOrder?_counts_down_invoices :
    dependencyOrder? tables = some [1, 2, 0, 3] ∧
      IsLeast {order | IsDependencyOrder tables order} [1, 2, 0, 3] ∧
      (dependencyOrder? tables).isSome = true ∧
      ∃ s, CountsDown tables s ∧ s.emitted = [3, 0, 2, 1] ∧ ∀ place, 0 ≤ s.counter place := by
  obtain ⟨least, exists_order, nonneg, s, moment, -, out⟩ := dependencyOrder?_counts_down tables
  have isLeast := (least _).mp dependencyOrder?_tables
  refine ⟨dependencyOrder?_tables, isLeast, exists_order ⟨_, isLeast.1⟩, s, moment, ?_,
    nonneg s moment⟩
  rw [dependencyOrder?_tables] at out
  split at out
  · exact List.reverse_eq_iff.mp (Option.some.inj out).symm
  · cases out

end SchemaCompiler.Dependency
