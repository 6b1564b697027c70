/-
**The names of output columns.**

A selected column comes out under the alias that was asked for, under one that was made for it, or
under the name of the column. Names that were asked for and names of columns are told apart, but
nothing is compared with the aliases that are made. So the columns come out under different names
exactly when the aliases that are made stand apart.

* `Query.outputNames_perm` — the three kinds of output names.
* `Query.nodup_plainNames`, `Query.plainNames_disjoint_takenNames` — names of columns are told apart
  from each other and from the names that were asked for.
* `Query.nodup_outputNames_iff` — when all of them are.
-/

import Mathlib.Data.List.Nodup
import SchemaCompiler.Query.Alias

namespace SchemaCompiler

namespace Query

variable {q : Query} {c : SelectedColumn}

/-! ### Three kinds of names -/

/-- The names under which the selected columns come out. -/
def outputNames (q : Query) : List String :=
  List.zipWith (fun c name => name.getD c.column) q.columns (q.aliases true)

/-- Whether the alias of a selected column is made from its table and its column. -/
def needsAlias (q : Query) (c : SelectedColumn) : Bool :=
  c.explicitAlias?.isNone && (q.collides c || c.aggregate.isPresent)

/-- Whether a selected column has no alias at all. -/
def isPlain (q : Query) (c : SelectedColumn) : Bool :=
  c.explicitAlias?.isNone && !(q.collides c || c.aggregate.isPresent)

/-- The aliases that are made, in lower case. -/
def madeNames (q : Query) : List String :=
  (q.columns.filter q.needsAlias).map fun c => Text.lower c.autoAlias

/-- The names of the columns that have no alias, in lower case. -/
def plainNames (q : Query) : List String :=
  (q.columns.filter q.isPlain).map fun c => Text.lower c.column

/-- The aliases that are made stand apart: they differ from each other, from the aliases that were
asked for, and from the names of the columns without an alias. -/
structure MadeApart (q : Query) : Prop where
  distinct : q.madeNames.Nodup
  asked : ∀ name ∈ q.madeNames, name ∉ q.takenNames
  plain : ∀ name ∈ q.madeNames, name ∉ q.plainNames

/-- The name under which a selected column comes out. -/
def outputName (q : Query) (c : SelectedColumn) : String :=
  (q.aliasOf c).getD c.column

theorem outputNames_eq : q.outputNames = q.columns.map q.outputName := by
  unfold outputNames aliases
  simp only [if_true, List.zipWith_map_right, List.zipWith_self]
  rfl

theorem outputName_of_asked {name : String} (asked : c.explicitAlias? = some name) :
    q.outputName c = name := by
  rw [outputName, aliasOf, asked, Option.getD_some]

theorem aliasOf_of_notAsked (notAsked : c.explicitAlias? = none) :
    q.aliasOf c = if q.collides c || c.aggregate.isPresent then some c.autoAlias else none := by
  rw [aliasOf, notAsked]

theorem outputName_of_needsAlias (needed : q.needsAlias c = true) : q.outputName c = c.autoAlias := by
  obtain ⟨notAsked, needed⟩ := Bool.and_eq_true_iff.mp needed
  rw [outputName, aliasOf_of_notAsked (Option.isNone_iff_eq_none.mp notAsked), if_pos needed,
    Option.getD_some]

theorem outputName_of_isPlain (plain : q.isPlain c = true) : q.outputName c = c.column := by
  obtain ⟨notAsked, unneeded⟩ := Bool.and_eq_true_iff.mp plain
  rw [outputName, aliasOf_of_notAsked (Option.isNone_iff_eq_none.mp notAsked),
    if_neg (by simpa using unneeded), Option.getD_none]

theorem isPlain_of_notAsked (notAsked : c.explicitAlias? = none) :
    q.isPlain c = !q.needsAlias c := by
  rw [isPlain, needsAlias, notAsked, Option.isNone_none, Bool.true_and, Bool.true_and]

/-- **Every output name is one of three kinds.** -/
theorem outputNames_perm :
    (q.outputNames.map Text.lower).Perm (q.takenNames ++ (q.madeNames ++ q.plainNames)) := by
  rw [outputNames_eq, List.map_map, takenNames, madeNames, plainNames]
  -- What a column needs is decided by the whole query, so only the list is taken apart.
  generalize q.columns = columns
  induction columns with
  | nil => exact .nil
  | cons c rest ih =>
    rw [List.map_cons, Function.comp_apply]
    cases asked : c.explicitAlias? with
    | some name =>
      rw [outputName_of_asked asked, List.filterMap_cons_some asked]
      simpa [needsAlias, isPlain, asked] using ih
    | none =>
      rw [List.filterMap_cons_none asked]
      cases needed : q.needsAlias c with
      | true =>
        have notPlain : ¬ q.isPlain c = true := by simp [isPlain_of_notAsked asked, needed]
        rw [outputName_of_needsAlias needed, List.filter_cons_of_pos needed,
          List.filter_cons_of_neg notPlain]
        exact (ih.cons _).trans List.perm_middle.symm
      | false =>
        have plain : q.isPlain c = true := by simp [isPlain_of_notAsked asked, needed]
        rw [outputName_of_isPlain plain, List.filter_cons_of_pos plain,
          List.filter_cons_of_neg (by simp [needed]), List.map_cons, ← List.append_assoc]
        rw [← List.append_assoc] at ih
        exact (ih.cons _).trans List.perm_middle.symm

/-! ### Columns without an alias -/

theorem isPlain_iff :
    q.isPlain c = true ↔
      c.explicitAlias? = none ∧ c.aggregate = .none ∧ Text.lower c.column ∉ q.takenNames ∧
        q.nameCount c.naturalName ≤ 1 := by
  have noFunction : c.aggregate.isPresent = false ↔ c.aggregate = .none := by
    simp [Aggregate.isPresent]
  simp only [isPlain, collides, Bool.and_eq_true, Option.isNone_iff_eq_none, Bool.not_eq_true',
    Bool.or_eq_false_iff, noFunction]
  constructor
  · rintro ⟨notAsked, ⟨notTaken, alone⟩, plain⟩
    refine ⟨notAsked, plain, ?_, by simpa using alone⟩
    simpa [plain, SelectedColumn.naturalName, Aggregate.isPresent] using notTaken
  · rintro ⟨notAsked, plain, notTaken, alone⟩
    refine ⟨notAsked, ⟨?_, by simpa using alone⟩, plain⟩
    simpa [plain, SelectedColumn.naturalName, Aggregate.isPresent] using notTaken

/-- Columns without an alias do not share a name. -/
theorem nodup_plainNames (q : Query) : q.plainNames.Nodup := by
  rw [List.nodup_iff_count_le_one]
  intro name
  by_cases occurs : name ∈ q.plainNames
  · obtain ⟨c, member, rfl⟩ := List.mem_map.mp occurs
    obtain ⟨-, plain⟩ := List.mem_filter.mp member
    obtain ⟨-, noFunction, -, alone⟩ := isPlain_iff.mp plain
    refine Nat.le_trans ?_ alone
    rw [plainNames, List.count_eq_countP, List.countP_map, List.countP_filter, nameCount]
    refine List.countP_mono_left fun other _ sameName => ?_
    obtain ⟨sameName, otherPlain⟩ := Bool.and_eq_true_iff.mp sameName
    obtain ⟨notAsked, otherNoFunction, -⟩ := isPlain_iff.mp otherPlain
    simp only [Function.comp_apply, beq_iff_eq] at sameName
    simp [SelectedColumn.naturalName, notAsked, noFunction, otherNoFunction, sameName]
  · rw [List.count_eq_zero_of_not_mem occurs]
    exact Nat.zero_le 1

/-- No column without an alias has a name that was asked for. -/
theorem plainNames_disjoint_takenNames (q : Query) : ∀ name ∈ q.takenNames, name ∉ q.plainNames := by
  intro name asked occurs
  obtain ⟨c, member, rfl⟩ := List.mem_map.mp occurs
  exact (isPlain_iff.mp (List.mem_filter.mp member).2).2.2.1 asked

/-- **The columns of a query come out under different names**, case aside, exactly when the aliases
that are made stand apart, provided that the aliases that were asked for are different. -/
theorem nodup_outputNames_iff (asked : q.takenNames.Nodup) :
    (q.outputNames.map Text.lower).Nodup ↔ q.MadeApart := by
  rw [outputNames_perm.nodup_iff]
  have askedPlain := q.plainNames_disjoint_takenNames
  constructor
  · intro distinct
    obtain ⟨-, others, fromAsked⟩ := List.nodup_append'.mp distinct
    obtain ⟨made, -, fromPlain⟩ := List.nodup_append'.mp others
    exact ⟨made, fun name isMade isAsked => fromAsked isAsked (List.mem_append_left _ isMade),
      fun name isMade isPlain => fromPlain isMade isPlain⟩
  · rintro ⟨made, fromAsked, fromPlain⟩
    have others : (q.madeNames ++ q.plainNames).Nodup :=
      List.nodup_append'.mpr ⟨made, q.nodup_plainNames, fun name => fromPlain name⟩
    refine List.nodup_append'.mpr ⟨asked, others, fun name isAsked isOther => ?_⟩
    rcases List.mem_append.mp isOther with isMade | isPlain
    · exact fromAsked name isMade isAsked
    · exact askedPlain name isAsked isPlain

/-! ### Clubs and their members -/

/-- Two columns of one name, a count, and an alias with the name of a column. -/
def membersOfClubs : Query :=
  { tables := ["members", "clubs"],
    columns :=
      [ { table := "members", column := "id" }, { table := "clubs", column := "id" },
        { table := "members", column := "id", aggregate := .count },
        { table := "clubs", column := "title", givenAlias := "Name" },
        { table := "members", column := "name" }, { table := "clubs", column := "founded" } ] }

theorem nodup_outputNames_membersOfClubs :
    membersOfClubs.outputNames =
        ["members_id", "clubs_id", "count_members_id", "Name", "members_name", "founded"] ∧
      membersOfClubs.takenNames.Nodup ∧
      (membersOfClubs.outputNames.map Text.lower).Nodup := by
  have asked : membersOfClubs.takenNames.Nodup := by decide
  exact ⟨by decide, asked, (nodup_outputNames_iff asked).mpr ⟨by decide, by decide, by decide⟩⟩

/-- Orders and customers by their ids, with a record of the ids of orders. -/
def auditedOrders : Query :=
  { tables := ["orders", "customers", "audit"],
    columns :=
      [ { table := "orders", column := "id" }, { table := "customers", column := "id" },
        { table := "audit", column := "orders_id" } ] }

/-- An alias that is made can be the name of a column: three columns, none of them selected twice and
no alias asked for, come out under two names. -/
theorem outputNames_auditedOrders :
    (auditedOrders.columns.map fun c => (c.table, c.column, c.aggregate)).Nodup ∧
      auditedOrders.takenNames.Nodup ∧
      auditedOrders.outputNames = ["orders_id", "customers_id", "orders_id"] ∧
      ¬ (auditedOrders.outputNames.map Text.lower).Nodup := by
  have names : auditedOrders.outputNames = ["orders_id", "customers_id", "orders_id"] := by decide
  refine ⟨by decide, by decide, names, ?_⟩
  rw [names]
  decide

end Query

end SchemaCompiler
