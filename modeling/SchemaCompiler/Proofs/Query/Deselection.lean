/-
**Deselecting a table.**

With a table goes everything that names it, a join by either of its sides. What is left keeps its order
and its repetitions, and the check finds nothing in it that it did not find before, unless no table is
left at all.

* `IsRest` — what is left of a list.
* `Query.LeavesWithout.errors_sublist` — what the check finds in what is left of a query.
* `Query.apply_toggleTable_of_selected` — so it is with the action.
-/

import Mathlib.Data.List.Flatten
import SchemaCompiler.Proofs.Query.Editing

namespace SchemaCompiler

/-! ### What is left of a list -/

section Rest

variable {α β : Type} {gone : α → Prop} {items rest : List α}

/-- What is left of a list when some items go: the longest part of it, in its order, that has none of
them. -/
structure IsRest (gone : α → Prop) (items rest : List α) : Prop where
  sublist : rest.Sublist items
  remains : ∀ x ∈ rest, ¬ gone x
  longest : ∀ kept : List α, kept.Sublist items → (∀ x ∈ kept, ¬ gone x) → kept.Sublist rest

theorem isRest_filter {keeps : α → Bool} (same : ∀ x, keeps x = true ↔ ¬ gone x) (items : List α) :
    IsRest gone items (items.filter keeps) where
  sublist := List.filter_sublist
  remains x left := (same x).mp (List.mem_filter.mp left).2
  longest kept isPart remain := by
    have whole : kept.filter keeps = kept :=
      List.filter_eq_self.mpr fun x isKept => (same x).mpr (remain x isKept)
    rw [← whole]
    exact isPart.filter keeps

namespace IsRest

/-- Nothing else is left. -/
theorem eq {other : List α} (isRest : IsRest gone items rest) (isOther : IsRest gone items other) :
    other = rest :=
  (isRest.longest other isOther.sublist isOther.remains).antisymm
    (isOther.longest rest isRest.sublist isRest.remains)

theorem mem_iff {x : α} (isRest : IsRest gone items rest) : x ∈ rest ↔ x ∈ items ∧ ¬ gone x := by
  refine ⟨fun left => ⟨isRest.sublist.subset left, isRest.remains x left⟩, ?_⟩
  rintro ⟨member, stays⟩
  have alone : [x].Sublist rest := isRest.longest [x] (List.singleton_sublist.mpr member) (by simpa)
  exact List.singleton_sublist.mp alone

/-- **What is found in the items that are left** was found before, when each of them still gives the
same. -/
theorem flatMap_sublist {now before : α → List β} (isRest : IsRest gone items rest)
    (same : ∀ x, ¬ gone x → now x = before x) :
    (rest.flatMap now).Sublist (items.flatMap before) := by
  rw [List.flatMap_congr fun x left => same x (isRest.remains x left)]
  exact isRest.sublist.flatMap before

end IsRest

end Rest

/-! ### What is left of a query -/

namespace Query

/-- What a query leaves without a table and everything that names it. -/
structure LeavesWithout (q : Query) (table : String) (rest : Query) : Prop where
  tables : IsRest (· = table) q.tables rest.tables
  columns : IsRest (·.table = table) q.columns rest.columns
  joins : IsRest (table ∈ ·.sides) q.joins rest.joins
  filters : IsRest (·.table = table) q.filters rest.filters
  groupBy : IsRest (·.table = table) q.groupBy rest.groupBy
  having : IsRest (·.table = table) q.having rest.having
  orderBy : IsRest (·.table = table) q.orderBy rest.orderBy
  limit : rest.limit = q.limit
  offset : rest.offset = q.offset

theorem leavesWithout_withoutTable (q : Query) (table : String) :
    q.LeavesWithout table (q.withoutTable table) where
  tables := isRest_filter (fun _ => bne_iff_ne) _
  columns := isRest_filter (fun _ => bne_iff_ne) _
  joins := isRest_filter (fun j => by simp [Join.mentions, Join.sides, @eq_comm _ table]) _
  filters := isRest_filter (fun _ => bne_iff_ne) _
  groupBy := isRest_filter (fun _ => bne_iff_ne) _
  having := isRest_filter (fun _ => bne_iff_ne) _
  orderBy := isRest_filter (fun _ => bne_iff_ne) _
  limit := rfl
  offset := rfl

namespace LeavesWithout

variable {q rest : Query} {table : String}

/-- Nothing else is left of the query. -/
theorem eq {other : Query} (leaves : q.LeavesWithout table rest)
    (leavesOther : q.LeavesWithout table other) : other = rest := by
  obtain ⟨tables, columns, joins, filters, groupBy, having, orderBy, limit, offset⟩ := leavesOther
  cases other
  cases rest
  congr
  · exact leaves.tables.eq tables
  · exact leaves.columns.eq columns
  · exact leaves.joins.eq joins
  · exact leaves.filters.eq filters
  · exact leaves.groupBy.eq groupBy
  · exact leaves.having.eq having
  · exact leaves.orderBy.eq orderBy
  · exact limit.trans leaves.limit.symm
  · exact offset.trans leaves.offset.symm

/-! ### What the check finds -/

theorem hasTable_eq (leaves : q.LeavesWithout table rest) {name : String} (other : name ≠ table) :
    rest.hasTable name = q.hasTable name := by
  rw [Bool.eq_iff_iff, hasTable_iff, hasTable_iff, leaves.tables.mem_iff]
  exact and_iff_left other

theorem selectionErrors_eq (leaves : q.LeavesWithout table rest) (place : ReferencePlace)
    (ref : ColumnRef) (other : ¬ ref.table = table) :
    rest.selectionErrors place ref = q.selectionErrors place ref := by
  rw [selectionErrors, selectionErrors, leaves.hasTable_eq other]

theorem joinErrors_eq (leaves : q.LeavesWithout table rest) {j : Join} (other : table ∉ j.sides) :
    rest.joinErrors j = q.joinErrors j := by
  have same : ∀ side ∈ j.sides, (!rest.hasTable side) = !q.hasTable side := by
    intro side isSide
    rw [leaves.hasTable_eq (ne_of_mem_of_not_mem isSide other)]
  unfold joinErrors
  rw [show [j.leftTable, j.rightTable] = j.sides from rfl, List.filter_congr same]

theorem filterErrors_eq (leaves : q.LeavesWithout table rest) {c : Condition}
    (other : ¬ c.table = table) : rest.filterErrors c = q.filterErrors c := by
  rw [filterErrors, filterErrors, leaves.selectionErrors_eq .filter c.ref other]

/-- **What the check finds in what is left** it found before, as long as a table is left. -/
theorem errors_sublist (leaves : q.LeavesWithout table rest) (nonempty : rest.tables ≠ []) :
    rest.errors.Sublist q.errors := by
  have nonemptyBefore : q.tables ≠ [] := by
    intro empty
    exact nonempty (List.sublist_nil.mp (empty ▸ leaves.tables.sublist))
  have columns := leaves.columns.flatMap_sublist fun c =>
    leaves.selectionErrors_eq .column c.ref
  have joins := leaves.joins.flatMap_sublist fun _ => leaves.joinErrors_eq
  have filters := leaves.filters.flatMap_sublist fun _ => leaves.filterErrors_eq
  have having := leaves.having.flatMap_sublist fun c =>
    leaves.selectionErrors_eq .having c.ref
  have groupBy := leaves.groupBy.flatMap_sublist (leaves.selectionErrors_eq .groupBy)
  have orderBy := leaves.orderBy.flatMap_sublist fun o =>
    leaves.selectionErrors_eq .orderBy o.ref
  unfold errors
  rw [if_neg (by simpa using nonempty), if_neg (by simpa using nonemptyBefore)]
  exact ((((columns.append joins).append filters).append having).append groupBy).append orderBy

end LeavesWithout

/-! ### The action -/

/-- **Deselecting a table.** The action on a table that is selected leaves exactly what does not name it.
The check finds nothing in it that it did not find before, as long as a table is left; so a query without
errors has none afterwards, unless no table is left. -/
theorem apply_toggleTable_of_selected {q : Query} {table : String} (selected : table ∈ q.tables) :
    let rest := q.apply (.toggleTable table)
    q.LeavesWithout table rest ∧ (∀ other, q.LeavesWithout table other → other = rest) ∧
      (rest.tables ≠ [] → rest.validate.errors.Sublist q.validate.errors) ∧
      (q.validate.errors = [] → (rest.validate.errors = [] ↔ rest.tables ≠ [])) := by
  intro rest
  have leaves : q.LeavesWithout table rest := by
    have deselects : rest = q.withoutTable table := (toggleTable_eq q table).trans (if_pos selected)
    rw [deselects]
    exact leavesWithout_withoutTable q table
  have fewer (nonempty : rest.tables ≠ []) : rest.validate.errors.Sublist q.validate.errors :=
    (leaves.errors_sublist nonempty).map _
  refine ⟨leaves, fun other => leaves.eq, fewer, fun clean => ⟨?_, fun nonempty => ?_⟩⟩
  · intro cleanAfter
    exact (errors_eq_nil_iff.mp (validate_errors_eq_nil_iff.mp cleanAfter)).1
  · exact List.sublist_nil.mp (clean ▸ fewer nonempty)

/-! ### Orders without their customers -/

/-- Orders that are counted for each customer, with one column that is selected twice. -/
def ordersOfCustomers : Query :=
  { tables := ["orders", "customers", "items"],
    columns :=
      [ { table := "orders", column := "id", aggregate := .count },
        { table := "customers", column := "name" },
        { table := "orders", column := "id", aggregate := .count } ],
    joins :=
      [ { leftTable := "orders", leftColumn := "customer_id", rightTable := "customers",
          rightColumn := "id" },
        { leftTable := "items", leftColumn := "order_id", rightTable := "orders",
          rightColumn := "id", kind := .left } ],
    filters := [{ table := "customers", column := "name", operator := .like, value := "A%" }],
    groupBy := [⟨"customers", "name"⟩, ⟨"items", "kind"⟩],
    having :=
      [ { table := "orders", column := "id", operator := .gt, value := "1", aggregate := .count },
        { table := "customers", column := "id", operator := .isNotNull } ],
    orderBy := [{ table := "customers", column := "name" }],
    limit := some 10 }

theorem apply_toggleTable_of_selected_customers :
    "customers" ∈ ordersOfCustomers.tables ∧ ordersOfCustomers.validate.errors = [] ∧
      ordersOfCustomers.apply (.toggleTable "customers") =
        { tables := ["orders", "items"],
          columns :=
            [ { table := "orders", column := "id", aggregate := .count },
              { table := "orders", column := "id", aggregate := .count } ],
          joins :=
            [ { leftTable := "items", leftColumn := "order_id", rightTable := "orders",
                rightColumn := "id", kind := .left } ],
          groupBy := [⟨"items", "kind"⟩],
          having :=
            [{ table := "orders", column := "id", operator := .gt, value := "1",
               aggregate := .count }],
          limit := some 10 } ∧
      ordersOfCustomers.LeavesWithout "customers"
        (ordersOfCustomers.apply (.toggleTable "customers")) ∧
      (ordersOfCustomers.apply (.toggleTable "customers")).validate.errors = [] := by
  have selected : "customers" ∈ ordersOfCustomers.tables := by decide
  have clean : ordersOfCustomers.validate.errors = [] := by decide
  obtain ⟨leaves, -, -, cleanIff⟩ := apply_toggleTable_of_selected selected
  exact ⟨selected, clean, by decide, leaves, (cleanIff clean).mpr (by decide)⟩

end Query

end SchemaCompiler
