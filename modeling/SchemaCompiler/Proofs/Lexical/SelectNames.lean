/-
**The names that an engine reads in a SELECT statement.**

SELECT writes every name as a dotted one: it is cut at its dots, and each piece is quoted only where it
must be. That is meant for a table with its schema in front. A column or an alias is one name, and with
a dot in it it is written as several. Without dots it is read as it was, unless it is a bare word that
PostgreSQL puts in lower case.

* `Dialect.readName_escapeIdentifier_of_dotted` — a name with dots is not read as one name.
* `Dialect.readName_escapeIdentifier_eq_some_iff` — the names that are read as they were.
* `Dialect.selectText_names_iff` — so it is in every place of a statement where a name stands.
-/

import SchemaCompiler.Proofs.Lexical.Naming
import SchemaCompiler.Proofs.Lexical.SelectParts

namespace SchemaCompiler

namespace Dialect

variable {d : Dialect} {name : String}

/-! ### Names with dots -/

/-- More than a closing mark behind what is quoted is not read. -/
theorem readQuoted_overrun (d : Dialect) (name : List Char) {c : Char} (other : c ≠ d.quoteMark)
    (rest : List Char) :
    readQuoted d.quoteMark (name.flatMap d.nameChar ++ d.quoteMark :: c :: rest) = none := by
  induction name with
  | nil => rw [List.flatMap_nil, List.nil_append, readQuoted, if_pos rfl, if_neg other]
  | cons first others ih =>
    rw [List.flatMap_cons, List.append_assoc]
    by_cases same : first = d.quoteMark
    · rw [nameChar, if_pos same, List.cons_append, List.singleton_append, readQuoted, if_pos rfl,
        if_pos rfl, ih, Option.map_none]
    · rw [nameChar, if_neg same, List.singleton_append, readQuoted_cons_of_ne same, ih,
        Option.map_none]

theorem dot_notMem_of_isIdentifier (identifier : IsIdentifier name) : '.' ∉ name.toList := by
  obtain ⟨first, rest, chars, starts, continues⟩ := identifier
  have each : ∀ c ∈ name.toList, inBareName c = true := by
    intro c member
    rw [chars] at member
    rcases List.mem_cons.mp member with rfl | inRest
    · exact continuesIdentifier_iff.mp (.inl starts)
    · exact continuesIdentifier_iff.mp (continues c inRest)
  exact fun dot => absurd (each '.' dot) (by decide)

/-- A name with dots is written in pieces with dots between them. -/
theorem exists_escapeIdentifier_of_dotted (d : Dialect) (dotted : '.' ∈ name.toList) :
    ∃ piece others, d.escapeIdentifier name = d.escapePart piece ++ "." ++ others := by
  obtain ⟨front, back, split, undotted⟩ := List.eq_append_cons_of_mem dotted
  obtain ⟨next, rest, pieces⟩ := List.exists_cons_of_ne_nil (List.splitOn_ne_nil '.' back)
  rw [escapeIdentifier, split, List.splitOn_append_cons_self_of_not_mem undotted, pieces,
    List.map_cons, List.map_cons, String.intercalate_cons_cons]
  exact ⟨_, _, rfl⟩

/-- **A name with dots is not read as one name.** -/
theorem readName_escapeIdentifier_of_dotted (d : Dialect) (dotted : '.' ∈ name.toList) :
    d.readName? (d.escapeIdentifier name) = none := by
  obtain ⟨piece, others, written⟩ := exists_escapeIdentifier_of_dotted d dotted
  rw [written, escapePart]
  cases bare : needsQuoting piece with
  | true =>
    have noMark : '.' ≠ d.quoteMark := by cases d <;> decide
    have chars : (d.quoteIdentifier piece ++ "." ++ others).toList = d.quoteMark ::
        (piece.toList.flatMap d.nameChar ++ d.quoteMark :: '.' :: others.toList) := by
      simp [toList_quoteIdentifier]
    rw [if_pos rfl, readName?, chars]
    simp only [if_true, readQuoted_overrun d _ noMark, Option.map_none]
  | false =>
    -- The dot behind the first piece makes the whole no bare word.
    have noIdentifier : ¬ IsIdentifier (piece ++ "." ++ others) :=
      fun identifier => dot_notMem_of_isIdentifier identifier (by simp)
    obtain ⟨first, rest, chars, starts, -⟩ := (needsQuoting_eq_false_iff.mp bare).1
    have noMark : first ≠ d.quoteMark := ne_quoteMark_of_startsIdentifier starts
    rw [if_neg Bool.false_ne_true, readName?]
    simp [chars, noMark, noIdentifier]

/-! ### Names that are kept -/

/-- A name that SELECT writes as one name that is read as it was: it has no dot, and it is no bare word
that PostgreSQL puts in lower case. -/
structure Keeps (d : Dialect) (name : String) : Prop where
  undotted : '.' ∉ name.toList
  unfolded : ¬ (d = .postgres ∧ (IsIdentifier name ∧ isReservedWord name = false) ∧
    ∃ c ∈ name.toList, 'A' ≤ c ∧ c ≤ 'Z')

instance (d : Dialect) (name : String) : Decidable (d.Keeps name) :=
  have : Decidable (∃ c ∈ name.toList, 'A' ≤ c ∧ c ≤ 'Z') := List.decidableBEx _ _
  decidable_of_iff (_ ∧ _) ⟨fun ⟨undotted, unfolded⟩ => Keeps.mk undotted unfolded,
    fun keeps => ⟨keeps.undotted, keeps.unfolded⟩⟩

/-- **A name is read as one name** exactly when it has no dots. -/
theorem isSome_readName_escapeIdentifier_iff (d : Dialect) (name : String) :
    (d.readName? (d.escapeIdentifier name)).isSome = true ↔ '.' ∉ name.toList := by
  constructor
  · intro isRead dotted
    rw [readName_escapeIdentifier_of_dotted d dotted] at isRead
    cases isRead
  · intro undotted
    rw [escapeIdentifier_of_undotted undotted, readName_escapePart]
    rfl

/-- **A name is read as it was** exactly when it is kept. -/
theorem readName_escapeIdentifier_eq_some_iff (d : Dialect) (name : String) :
    d.readName? (d.escapeIdentifier name) = some name ↔ d.Keeps name := by
  by_cases dotted : '.' ∈ name.toList
  · rw [readName_escapeIdentifier_of_dotted d dotted]
    exact iff_of_false (Option.some_ne_none name).symm fun keeps => keeps.undotted dotted
  · rw [escapeIdentifier_of_undotted dotted, readName_escapePart, Option.some_inj]
    have keepsIff : d.Keeps name ↔ ¬ (d = .postgres ∧ needsQuoting name = false ∧
        ∃ c ∈ name.toList, 'A' ≤ c ∧ c ≤ 'Z') := by
      rw [needsQuoting_eq_false_iff]
      exact ⟨fun keeps => keeps.unfolded, fun unfolded => ⟨dotted, unfolded⟩⟩
    rw [keepsIff]
    cases bare : needsQuoting name with
    | true => simp
    | false => simpa using folded_eq_self_iff

end Dialect

/-! ### Statements -/

/-- The single name that a part is there for: that of a column or an alias. -/
def SelectPart.single? : SelectPart → Option String
  | .column name | .given name => some name
  | _ => none

theorem SelectPart.single_eq_some_iff {part : SelectPart} {name : String} :
    part.single? = some name ↔ part.alias? = some name ∨ part.column? = some name := by
  cases part <;> simp [single?, alias?, column?]

theorem SelectPart.text_of_single {part : SelectPart} {name : String}
    (single : part.single? = some name) (d : Dialect) : part.text d = d.escapeIdentifier name := by
  cases part with
  | column other | given other =>
    cases single
    rfl
  | words other | table other => cases single

/-- **The columns and the aliases in a statement** are those of its query: it starts with the selected
columns, each with its own alias, and the others follow clause by clause. Each of them is read as one
name exactly when it has no dots, and as the name that it is exactly when it is kept. -/
theorem Dialect.selectText_names_iff {d : Dialect} {q : Query} {options : SelectOptions}
    {text : String} (written : d.selectText q options = .ok text) :
    ∃ s, q.sources = .ok s ∧ text = d.written (d.selectParts q s options) ∧
      (∃ later, d.selectParts q s options = .words "SELECT " :: (q.listParts options ++ later)) ∧
      (d.selectParts q s options).filterMap SelectPart.alias? =
        (q.aliases options.includeAliases).reduceOption ∧
      (d.selectParts q s options).filterMap SelectPart.column? = q.writtenColumns ∧
      ∀ part ∈ d.selectParts q s options, ∀ name, part.single? = some name →
        ((d.readName? (part.text d)).isSome = true ↔ '.' ∉ name.toList) ∧
          (d.readName? (part.text d) = some name ↔ d.Keeps name) := by
  obtain ⟨s, found, rfl⟩ := selectText_parts written
  refine ⟨s, found, rfl, exists_selectParts_eq_list d q s options,
    aliases_selectParts d q s options, columns_selectParts d found options, ?_⟩
  intro part _ name single
  rw [SelectPart.text_of_single single]
  exact ⟨isSome_readName_escapeIdentifier_iff d name, readName_escapeIdentifier_eq_some_iff d name⟩

/-! ### Orders by their day -/

namespace Query

/-- Orders by their day: a column is a reserved word, an alias has a blank and a capital letter, and
another one is made of names. -/
def ordersByDay : Query :=
  { tables := ["orders"],
    columns :=
      [ { table := "orders", column := "order", givenAlias := some "Order no" },
        { table := "orders", column := "total", aggregate := .sum } ],
    groupBy := [⟨"orders", "day of sale"⟩] }

/-- The number of orders in a table with its schema in front. -/
def shopOrders : Query :=
  { tables := ["shop.orders"],
    columns := [{ table := "shop.orders", column := "id", aggregate := .count }] }

end Query

/-- Every column and every alias here is read as the name that it is. -/
theorem Dialect.selectText_names_ordersByDay :
    postgres.selectText Query.ordersByDay {} =
        .ok ("SELECT orders.\"order\" AS \"Order no\", SUM(orders.total) AS sum_orders_total " ++
          "FROM orders GROUP BY orders.\"day of sale\";") ∧
      ∃ s, (postgres.selectParts Query.ordersByDay s {}).filterMap SelectPart.alias? =
          ["Order no", "sum_orders_total"] ∧
        (postgres.selectParts Query.ordersByDay s {}).filterMap SelectPart.column? =
          ["order", "total", "day of sale"] ∧
        ∀ part ∈ postgres.selectParts Query.ordersByDay s {}, ∀ name, part.single? = some name →
          postgres.readName? (part.text postgres) = some name := by
  have written : postgres.selectText Query.ordersByDay {} =
      .ok ("SELECT orders.\"order\" AS \"Order no\", SUM(orders.total) AS sum_orders_total " ++
        "FROM orders GROUP BY orders.\"day of sale\";") := by decide +kernel
  obtain ⟨s, -, -, -, aliases, columns, each⟩ := selectText_names_iff written
  have aliasesAre : (Query.ordersByDay.aliases true).reduceOption =
      ["Order no", "sum_orders_total"] := by decide +kernel
  refine ⟨written, s, aliases.trans aliasesAre, columns, fun part isPart name single => ?_⟩
  have kept : ∀ name ∈ ["Order no", "sum_orders_total", "order", "total", "day of sale"],
      postgres.Keeps name := by decide +kernel
  refine (each part isPart name single).2.mpr (kept name ?_)
  rcases SelectPart.single_eq_some_iff.mp single with isAlias | isColumn
  · have given := List.mem_filterMap.mpr ⟨part, isPart, isAlias⟩
    rw [aliases.trans aliasesAre] at given
    exact List.mem_append_left ["order", "total", "day of sale"] given
  · have named := List.mem_filterMap.mpr ⟨part, isPart, isColumn⟩
    rw [columns] at named
    exact List.mem_append_right ["Order no", "sum_orders_total"] named

/-- An alias that is made for a column takes the dot of the table's name, and is cut there. -/
theorem Dialect.selectText_names_shopOrders :
    mysql.selectText Query.shopOrders {} =
        .ok "SELECT COUNT(shop.orders.id) AS count_shop.orders_id FROM shop.orders;" ∧
      Query.shopOrders.aliases true = [some "count_shop.orders_id"] ∧
      mysql.escapeIdentifier "count_shop.orders_id" = "count_shop.orders_id" ∧
      mysql.readName? "count_shop.orders_id" = none := by
  decide +kernel

end SchemaCompiler
