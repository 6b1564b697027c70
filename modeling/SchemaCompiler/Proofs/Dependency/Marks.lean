/-
**The search for circles in three marks.**

A depth-first search is usually told with marks: a place is fresh until the search comes to it,
active as long as the search is below it, and settled afterwards. An active place that the search
comes to again is looked up on the path of the places that were entered and not left, and that lookup
has to succeed.

`Explores` is the search told so, with a verdict of its own for a lookup that fails. `Progress.of`
gives the marks that go with a path and a list of fresh places: the active places are those on the
path.

* `Explores.unique` — marks and path determine how the search ends.
* `explores_search` — the search in three marks comes to an end, as `search` does.
* `findCycle?_decides` — order, search and graph decide the same, and no lookup fails.
-/

import Mathlib.Logic.Function.Basic
import SchemaCompiler.Proofs.Dependency.Circle
import SchemaCompiler.Proofs.Traversal

namespace SchemaCompiler.Dependency

/-! ### Marks and path -/

/-- How far the search is with a place. -/
inductive Mark where
  | fresh
  | active
  | settled
  deriving DecidableEq

/-- How a search ends: without a circle, with one, or with an active place that is not on the path. -/
inductive Verdict where
  | clear
  | circle (places : List Nat)
  | lost

/-- The verdict for a circle or none. -/
def Verdict.of : Option (List Nat) → Verdict
  | none => .clear
  | some places => .circle places

/-- The marks of all places, and the path of the places that were entered and not left, earliest
first. -/
@[ext] structure Progress where
  mark : Nat → Mark
  path : List Nat

namespace Progress

/-- Nothing has been visited of the given places, and there are no others. -/
def start (places : List Nat) : Progress :=
  ⟨fun place => if place ∈ places then .fresh else .settled, []⟩

/-- A place is entered. -/
def enter (s : Progress) (place : Nat) : Progress :=
  ⟨Function.update s.mark place .active, s.path ++ [place]⟩

/-- The latest place is left. -/
def leave (s : Progress) (place : Nat) : Progress :=
  ⟨Function.update s.mark place .settled, s.path.dropLast⟩

/-- The circle that a step back to a place closes: the path from that place on, and the place once
more. -/
def closing (s : Progress) (place : Nat) : Verdict :=
  match s.path.idxOf? place with
  | some position => .circle (s.path.drop position ++ [place])
  | none => .lost

/-- The progress of a search with a path, latest place first, and fresh places. -/
def of (path fresh : List Nat) : Progress :=
  ⟨fun place => if place ∈ path then .active else if place ∈ fresh then .fresh else .settled,
    path.reverse⟩

end Progress

/-- The search of places one after the other, from one progress to another. A circle or a failed
lookup ends it. -/
inductive Explores (edges : Nat → List Nat) :
    Progress → List Nat → Verdict → Progress → Prop
  | done (s : Progress) : Explores edges s [] .clear s
  | meets {s : Progress} {place : Nat} {rest : List Nat} (isActive : s.mark place = .active) :
      Explores edges s (place :: rest) (s.closing place) s
  | stops {s t : Progress} {place : Nat} {rest : List Nat} {verdict : Verdict}
      (isFresh : s.mark place = .fresh)
      (below : Explores edges (s.enter place) (edges place) verdict t)
      (ended : verdict ≠ .clear) : Explores edges s (place :: rest) verdict t
  | returns {s t u : Progress} {place : Nat} {rest : List Nat} {verdict : Verdict}
      (isFresh : s.mark place = .fresh)
      (below : Explores edges (s.enter place) (edges place) .clear t)
      (next : Explores edges (t.leave place) rest verdict u) :
      Explores edges s (place :: rest) verdict u
  | skips {s t : Progress} {place : Nat} {rest : List Nat} {verdict : Verdict}
      (isSettled : s.mark place = .settled) (next : Explores edges s rest verdict t) :
      Explores edges s (place :: rest) verdict t

variable {edges : Nat → List Nat}

/-- **Marks and path determine** how the search ends. -/
theorem Explores.unique {s t u : Progress} {places : List Nat} {verdict other : Verdict}
    (first : Explores edges s places verdict t) (second : Explores edges s places other u) :
    verdict = other ∧ t = u := by
  induction first generalizing other u with
  | done s =>
    cases second
    exact ⟨rfl, rfl⟩
  | meets isActive =>
    cases second with
    | meets _ => exact ⟨rfl, rfl⟩
    | stops isFresh _ _ => simp [isActive] at isFresh
    | returns isFresh _ _ => simp [isActive] at isFresh
    | skips isSettled _ => simp [isActive] at isSettled
  | stops isFresh _ ended ihBelow =>
    cases second with
    | meets isActive => simp [isFresh] at isActive
    | stops _ below _ => exact ihBelow below
    | returns _ below _ => exact absurd (ihBelow below).1 ended
    | skips isSettled _ => simp [isFresh] at isSettled
  | returns isFresh _ _ ihBelow ihNext =>
    cases second with
    | meets isActive => simp [isFresh] at isActive
    | stops _ below ended => exact absurd (ihBelow below).1.symm ended
    | returns _ below next =>
      obtain ⟨-, rfl⟩ := ihBelow below
      exact ihNext next
    | skips isSettled _ => simp [isFresh] at isSettled
  | skips isSettled _ ih =>
    cases second with
    | meets isActive => simp [isSettled] at isActive
    | stops isFresh _ _ => simp [isSettled] at isFresh
    | returns isFresh _ _ => simp [isSettled] at isFresh
    | skips _ next => exact ih next

/-! ### Marks that go with a path -/

namespace Progress

variable {path fresh rest : List Nat} {place : Nat}

theorem start_eq_of (places : List Nat) : start places = of [] places := by
  simp [start, of]

theorem enter_of (path fresh : List Nat) (place : Nat) :
    (of path fresh).enter place = of (place :: path) (fresh.erase place) := by
  ext1
  · funext other
    by_cases same : other = place
    · simp [enter, of, same]
    · simp [enter, of, same, List.mem_erase_of_ne same]
  · exact (List.reverse_cons).symm

/-- After a place has been left it is settled: it is no longer on the path and not fresh. -/
theorem leave_of (offPath : place ∉ path) (notLeft : place ∉ rest) :
    (of (place :: path) rest).leave place = of path rest := by
  ext1
  · funext other
    by_cases same : other = place
    · simp [leave, of, same, offPath, notLeft]
    · simp [leave, of, same]
  · simp [leave, of]

/-- **The lookup of a place on the path succeeds**, and gives the circle that a step back to it
closes. -/
theorem closing_of (distinct : path.Nodup) (onPath : place ∈ path) :
    (of path fresh).closing place = .circle (closedCycle path place) := by
  obtain ⟨later, earlier, rfl, notLater⟩ := List.eq_append_cons_of_mem onPath
  have notEarlier : place ∉ earlier :=
    (List.nodup_cons.mp (List.Nodup.of_append_right distinct)).1
  have turned : (later ++ place :: earlier).reverse =
      earlier.reverse ++ (later ++ [place]).reverse := by simp
  have found : (later ++ place :: earlier).reverse.idxOf? place = some earlier.length := by
    rw [turned, List.idxOf?_eq_some_iff]
    refine ⟨by simp, by simp, fun position inFront same => notEarlier ?_⟩
    rw [List.getElem_append_left (by simpa using inFront)] at same
    exact List.mem_reverse.mp (same ▸ List.getElem_mem _)
  rw [closing, of, found, closedCycle_append notLater, turned]
  simp

end Progress

/-! ### The search comes to an end -/

/-- The search leaves places fresh that were fresh. -/
theorem sublist_search (edges : Nat → List Nat) (path places fresh : List Nat) :
    (search edges path places fresh).2.1.Sublist fresh := by
  induction path, places, fresh using search.induct edges with
  | case1 path fresh => simp [search]
  | case2 path place places fresh onPath => simp [search, onPath]
  | case3 path place places fresh offPath isFresh _ circle rest bound below ih =>
    rw [below] at ih
    rw [(search_cons_of_circle offPath isFresh below).2]
    exact ih.trans List.erase_sublist
  | case4 path place places fresh offPath isFresh _ rest bound below result last lastBound next
      ihBelow ihNext =>
    have none : (search edges (place :: path) (edges place) (fresh.erase place)).1 = none := by
      rw [below]
    rw [(search_cons_of_fresh offPath isFresh none).2, below]
    rw [below] at ihBelow
    exact (ihNext.trans ihBelow).trans List.erase_sublist
  | case5 path place places fresh offPath notFresh ih =>
    rw [search_cons_of_settled offPath notFresh]
    exact ih

/-- **The search in three marks comes to an end**, with the circle that `search` finds or with none,
and in that case with the marks of the places that `search` leaves fresh. -/
theorem explores_search {path places fresh : List Nat} (distinct : path.Nodup)
    (unvisited : fresh.Nodup) :
    ∃ s, Explores edges (.of path fresh) places (.of (search edges path places fresh).1) s ∧
      ((search edges path places fresh).1 = none →
        s = .of path (search edges path places fresh).2.1) := by
  induction path, places, fresh using search.induct edges with
  | case1 path fresh =>
    rw [search]
    exact ⟨_, .done _, fun _ => rfl⟩
  | case2 path place places fresh onPath =>
    have isActive : (Progress.of path fresh).mark place = .active := if_pos onPath
    rw [search, if_pos onPath]
    refine ⟨.of path fresh, ?_, fun found => by cases found⟩
    show Explores edges _ _ (.circle (closedCycle path place)) _
    rw [← Progress.closing_of distinct onPath]
    exact .meets isActive
  | case3 path place places fresh offPath isFresh _ circle rest bound below ih =>
    have marked : (Progress.of path fresh).mark place = .fresh := by
      simp [Progress.of, offPath, isFresh]
    obtain ⟨s, explored, -⟩ := ih (List.nodup_cons.mpr ⟨offPath, distinct⟩) (unvisited.erase place)
    rw [below, ← Progress.enter_of] at explored
    rw [(search_cons_of_circle offPath isFresh below).1]
    exact ⟨s, .stops marked explored (by simp [Verdict.of]), fun none => by cases none⟩
  | case4 path place places fresh offPath isFresh _ rest bound below result last lastBound next
      ihBelow ihNext =>
    have marked : (Progress.of path fresh).mark place = .fresh := by
      simp [Progress.of, offPath, isFresh]
    have none : (search edges (place :: path) (edges place) (fresh.erase place)).1 = none := by
      rw [below]
    obtain ⟨s, explored, ends⟩ :=
      ihBelow (List.nodup_cons.mpr ⟨offPath, distinct⟩) (unvisited.erase place)
    have left := sublist_search edges (place :: path) (edges place) (fresh.erase place)
    obtain ⟨sameResult, sameRest⟩ := search_cons_of_fresh offPath isFresh none
    rw [ends none, none, ← Progress.enter_of] at explored
    rw [sameResult, sameRest]
    rw [below] at explored left ⊢
    obtain ⟨t, exploredNext, endsNext⟩ := ihNext distinct ((unvisited.erase place).sublist left)
    have notLeft : place ∉ rest := fun member => unvisited.not_mem_erase (left.subset member)
    rw [← Progress.leave_of offPath notLeft] at exploredNext
    exact ⟨t, .returns marked explored exploredNext, endsNext⟩
  | case5 path place places fresh offPath notFresh ih =>
    have marked : (Progress.of path fresh).mark place = .settled := by
      simp [Progress.of, offPath, notFresh]
    obtain ⟨s, explored, ends⟩ := ih distinct unvisited
    rw [search_cons_of_settled offPath notFresh]
    exact ⟨s, .skips marked explored, ends⟩

/-- The search in three marks ends as `search` does, and in no other way. -/
theorem explores_start_iff {places : List Nat} (distinct : places.Nodup) {verdict : Verdict} :
    (∃ s, Explores edges (.start places) places verdict s) ↔
      verdict = .of (search edges [] places places).1 := by
  rw [Progress.start_eq_of]
  obtain ⟨last, explored, -⟩ := explores_search List.nodup_nil distinct
  constructor
  · rintro ⟨s, other⟩
    exact (other.unique explored).1
  · rintro rfl
    exact ⟨last, explored⟩

/-! ### What is decided -/

/-- **Order, search and graph decide the same**: tables cannot be put in order exactly when a circle
is found, and exactly when there is one. The names that are found are those of the tables of a circle.
The search in three marks comes to an end with that circle or without one, so no lookup on its path
fails. -/
theorem findCycle?_decides (tables : List Table) :
    (dependencyOrder? tables = none ↔ (findCycle? tables).isSome = true) ∧
      ((findCycle? tables).isSome = true ↔
        ∃ place, Relation.TransGen (DependsOn tables) place place) ∧
      (∀ names, findCycle? tables = some names →
        ∃ circle, cycle? tables = some circle ∧ IsCircle (DependsOn tables) circle ∧
          List.Forall₂ (fun place name => ∃ t, tables[place]? = some t ∧ t.name = name) circle
            names) ∧
      ∀ verdict, (∃ s, Explores (dependencies tables) (.start (List.range tables.length))
          (List.range tables.length) verdict s) ↔ verdict = .of (cycle? tables) := by
  refine ⟨dependencyOrder?_eq_none_iff, isSome_findCycle?_iff, fun names found => ?_, fun verdict =>
    explores_start_iff List.nodup_range⟩
  obtain ⟨circle, isFound, named⟩ := Option.map_eq_some_iff.mp found
  refine ⟨circle, isFound, isCircle_of_cycle? isFound, named ▸ ?_⟩
  have matched := Traversal.forall₂_filterMap (f := fun place => (tables[place]?).map Table.name)
    fun place member =>
      ⟨_, by rw [List.getElem?_eq_getElem (lt_of_mem_cycle? isFound member), Option.map_some]⟩
  exact matched.imp fun place name atPlace => Option.map_eq_some_iff.mp atPlace

/-! ### Employees and departments -/

namespace Staff

def key : Column :=
  { id := "k", name := "id", dataType := .integer, nullable := false, constraints := [.primaryKey] }

def reference (id source target : String) : Relationship :=
  { id, sourceTableId := source, sourceColumnId := "k", targetTableId := target,
    targetColumnId := "k" }

/-- Employees have a department, and a badge that no table holds. -/
def employees : Table :=
  { id := "e", name := "employees", columns := [key],
    relationships := [reference "works_in" "e" "d", reference "wears" "e" "b"] }

/-- Departments have a head among the employees, and may be part of a department. -/
def departments : Table :=
  { id := "d", name := "departments", columns := [key],
    relationships := [reference "part_of" "d" "d", reference "led_by" "d" "e"] }

def tables : List Table := [employees, departments]

theorem cycle?_tables : cycle? tables = some [0, 1, 0] := by
  have ofEmployees : dependencies tables 0 = [1] := by decide
  have ofDepartments : dependencies tables 1 = [0] := by decide
  have places : List.range tables.length = [0, 1] := by decide
  simp [cycle?, search, places, ofEmployees, ofDepartments, closedCycle]

theorem findCycle?_tables :
    findCycle? tables = some ["employees", "departments", "employees"] := by
  rw [findCycle?, cycle?_tables]
  rfl

end Staff

theorem findCycle?_decides_staff :
    findCycle? Staff.tables = some ["employees", "departments", "employees"] ∧
      dependencyOrder? Staff.tables = none ∧
      (∃ place, Relation.TransGen (DependsOn Staff.tables) place place) ∧
      (∃ circle, cycle? Staff.tables = some circle ∧ IsCircle (DependsOn Staff.tables) circle) ∧
      ∃ s, Explores (dependencies Staff.tables) (.start [0, 1]) [0, 1] (.circle [0, 1, 0]) s := by
  obtain ⟨ordered, cyclic, named, explored⟩ := findCycle?_decides Staff.tables
  have found : (findCycle? Staff.tables).isSome = true := by
    rw [Staff.findCycle?_tables]
    rfl
  obtain ⟨circle, isFound, isCircle, -⟩ := named _ Staff.findCycle?_tables
  refine ⟨Staff.findCycle?_tables, ordered.mpr found, cyclic.mp found, ⟨circle, isFound, isCircle⟩,
    (explored _).mpr ?_⟩
  rw [Staff.cycle?_tables]
  rfl

end SchemaCompiler.Dependency
