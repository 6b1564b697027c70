/-
**What an INSERT statement carries.**

An INSERT statement names the columns with a value in some row and has a tuple for each row. Every
value keeps its commas and parentheses between quotes, so the tuples are read back as the rows were
written, whatever the rows hold. A value under no column is left out, with a warning.

* `Dialect.isValue_valueLiteral` — the values of rows stand between commas.
* `Table.mem_strays_iff` — the values under no column.
* `Table.insertText_reads` — the rows are read back from the statement.
-/

import Mathlib.Data.List.Sigma
import SchemaCompiler.Proofs.Lexical.Numeral
import SchemaCompiler.Proofs.Lexical.Tuples
import SchemaCompiler.Sql.Insert

namespace SchemaCompiler

/-! ### Values -/

section Values

/-- The characters of values without quotes: those of numbers and of words. -/
def inUnquoted (c : Char) : Bool :=
  c.isAlphanum || ['.', '+', '-'].contains c

theorem inUnquoted_of_inNumeral {c : Char} (inClass : inNumeral c = true) :
    inUnquoted c = true := by
  rw [inNumeral, Bool.or_eq_true] at inClass
  rcases inClass with digit | other
  · simp [inUnquoted, Char.isAlphanum, digit]
  · simp only [List.contains_iff_mem, List.mem_cons, List.not_mem_nil, or_false] at other
    rcases other with rfl | rfl | rfl | rfl | rfl <;> decide

theorem isBlank_eq_false_of_inUnquoted {c : Char} (inClass : inUnquoted c = true) :
    Text.isBlank c = false := by
  have bounds : 0x2B ≤ c.toNat ∧ c.toNat ≤ 0x7A := by
    unfold inUnquoted Char.isAlphanum Char.isAlpha Char.isUpper Char.isLower Char.isDigit at inClass
    simp only [Bool.or_eq_true, Bool.and_eq_true, decide_eq_true_eq, UInt32.le_iff_toNat_le,
      List.contains_iff_mem, List.mem_cons, List.not_mem_nil, or_false] at inClass
    rcases inClass with ((upper | lower) | digit) | rfl | rfl | rfl
    · exact ⟨Nat.le_trans (by decide) upper.1, Nat.le_trans upper.2 (by decide)⟩
    · exact ⟨Nat.le_trans (by decide) lower.1, Nat.le_trans lower.2 (by decide)⟩
    · exact ⟨Nat.le_trans (by decide) digit.1, Nat.le_trans digit.2 (by decide)⟩
    all_goals decide
  exact Text.isBlank_eq_false_of_visible (Nat.lt_of_lt_of_le (by decide) bounds.1)
    (Nat.lt_of_le_of_lt bounds.2 (by decide))

namespace Dialect

variable {d : Dialect}

/-- A number or a word is a value. -/
theorem isValue_of_unquoted {text : String} (unquoted : text.toList.all inUnquoted = true) :
    d.IsValue text := by
  rw [List.all_eq_true] at unquoted
  have unmarked : ∀ c ∈ text.toList, c ≠ d.quoteMark ∧ c ≠ '\'' := fun c member =>
    unmarked_of inUnquoted (by decide) (unquoted c member)
  have notBlank : ∀ c ∈ text.toList, Text.isBlank c = false := fun c member =>
    isBlank_eq_false_of_inUnquoted (unquoted c member)
  refine ⟨after_of_unmarked unmarked, fun c member => ?_, Text.trimmed_eq_self ?_ ?_⟩
  · rw [bareText, bare_of_unmarked unmarked] at member
    exact notMem_of_class inUnquoted (by decide) (unquoted c member)
  · exact fun c isFirst => notBlank c (List.mem_of_mem_head? isFirst)
  · exact fun c isLast => notBlank c (List.mem_of_getLast? isLast)

theorem isValue_of_inNumeral {text : String} (numeral : ∀ c ∈ text.toList, inNumeral c = true) :
    d.IsValue text :=
  isValue_of_unquoted (List.all_eq_true.mpr fun c member =>
    inUnquoted_of_inNumeral (numeral c member))

theorem isValue_boolLiteral (value : Bool) : d.IsValue (d.boolLiteral value) := by
  cases d <;> cases value <;> exact isValue_of_unquoted (by decide)

theorem isValue_null : d.IsValue "NULL" :=
  isValue_of_unquoted (by decide)

/-- **A string is a value**, whatever it holds. -/
theorem isValue_stringLiteral (text : String) : d.IsValue (d.stringLiteral text) where
  closes := closes_stringLiteral text
  calm := by
    intro c member
    rw [mem_bareText_stringLiteral member]
    decide
  trimmed := by
    rw [toList_stringLiteral]
    refine Text.trimmed_eq_self (fun c isFirst => ?_) fun c isLast => ?_
    · cases isFirst
      decide
    · rw [List.getLast?_concat] at isLast
      cases isLast
      decide

theorem isValue_textLiteral (text : String) (type? : Option DataType) :
    d.IsValue (d.textLiteral text type?) := by
  rcases d.textLiteral_cases text type? with ⟨string, same⟩ | ⟨value, same⟩ | numeral
  · rw [same]
    exact isValue_stringLiteral string
  · rw [same]
    exact isValue_boolLiteral value
  · exact isValue_of_inNumeral numeral.characters

/-- **The values of rows** stand between commas. -/
theorem isValue_valueLiteral (value : Json) (type? : Option DataType) :
    d.IsValue (d.valueLiteral value type?) := by
  cases value with
  | null => exact isValue_null
  | bool value => exact isValue_boolLiteral value
  | number value => exact isValue_of_inNumeral fun _ => inNumeral_of_mem_text
  | string value => exact isValue_textLiteral value type?
  | array items => exact isValue_stringLiteral _
  | object members => exact isValue_stringLiteral _

end Dialect

end Values

/-! ### Rows -/

namespace Table

variable {t : Table} {d : Dialect}

theorem isValue_cell (c : Column) (row : Row) : d.IsValue (cell d c row) := by
  unfold cell
  split
  · exact Dialect.isValue_valueLiteral _ _
  · exact Dialect.isValue_null

/-- The values of the statement are read back as the cells. -/
theorem readTuples?_cells (filled : t.filledColumns ≠ []) (rows : t.rows ≠ []) {lead : String}
    (blank : lead.toList.all Text.isBlank = true) :
    d.readTuples? (lead ++ ("," ++ lead).intercalate ((t.cells d).map Dialect.tupleText)) =
      some (t.cells d) := by
  refine Dialect.readTuples?_intercalate (by simpa [cells] using rows) blank (fun values isRow => ?_)
    fun values isRow value isCell => ?_
  · obtain ⟨row, -, rfl⟩ := List.mem_map.mp isRow
    simpa using filled
  · obtain ⟨row, -, rfl⟩ := List.mem_map.mp isRow
    obtain ⟨c, -, rfl⟩ := List.mem_map.mp isCell
    exact isValue_cell c row

/-! ### Values under no column -/

/-- The values under no column: the place of the row and the key. -/
def strays (t : Table) : List (Nat × String) :=
  t.rows.zipIdx.flatMap fun (row, place) =>
    (row.keys.filter fun key => (t.columnById? key).isNone).map (place, ·)

theorem mem_strays_iff {place : Nat} {key : String} :
    (place, key) ∈ t.strays ↔
      ∃ row, t.rows[place]? = some row ∧ row.contains key = true ∧ ∀ c ∈ t.columns, c.id ≠ key := by
  have unknown : (t.columnById? key).isNone = true ↔ ∀ c ∈ t.columns, c.id ≠ key := by
    simp [columnById?, List.find?_eq_none]
  simp only [strays, List.mem_flatMap, Prod.exists, List.mk_mem_zipIdx_iff_getElem?, List.mem_map,
    List.mem_filter, Dictionary.mem_keys_iff, Prod.mk.injEq]
  constructor
  · rintro ⟨row, _, atPlace, _, ⟨isKey, missing⟩, rfl, rfl⟩
    exact ⟨row, atPlace, isKey, unknown.mp missing⟩
  · rintro ⟨row, atPlace, isKey, missing⟩
    exact ⟨row, place, atPlace, key, ⟨isKey, unknown.mpr missing⟩, rfl, rfl⟩

theorem nodup_strays (t : Table) : t.strays.Nodup := by
  refine List.nodup_flatMap.mpr ⟨fun ⟨row, place⟩ _ => ?_, ?_⟩
  · refine List.Nodup.map (fun key other same => (Prod.mk.inj same).2) ?_
    exact row.nodup_keys.filter _
  · -- pairs of different rows differ in their places
    have places : t.rows.zipIdx.Pairwise fun first second => first.2 ≠ second.2 :=
      List.pairwise_map.mp (List.nodup_zipIdx_map_snd t.rows)
    refine places.imp fun {first second} differ => ?_
    intro pair inFirst inSecond
    obtain ⟨_, -, rfl⟩ := List.mem_map.mp inFirst
    obtain ⟨_, -, same⟩ := List.mem_map.mp inSecond
    exact differ (Prod.mk.inj same).1.symm

theorem strayValues_eq_map (t : Table) :
    t.strayValues = t.strays.map fun (place, key) => t.strayValueText (place + 1) key := by
  simp only [strayValues, strays, List.map_flatMap, List.map_map]
  rfl

/-! ### Statements -/

/-- The tuples of the statement stand behind VALUES with commas and blanks between them. -/
theorem insertText_of_filled (filled : t.filledColumns ≠ []) (options : GenerateOptions) :
    ∃ lead : String, lead.toList.all Text.isBlank = true ∧
      t.insertText d options = "INSERT INTO " ++ d.tableName options t.name ++ " (" ++
        ", ".intercalate (t.filledColumns.map fun c => d.quoteIdentifier c.name) ++ ") VALUES" ++
          (lead ++ ("," ++ lead).intercalate ((t.cells d).map Dialect.tupleText)) ++ ";" := by
  have notEmpty : ¬ t.filledColumns.isEmpty = true := by simpa using filled
  unfold insertText
  rw [if_neg notEmpty]
  cases options.pretty with
  | true => exact ⟨"\n  ", by decide, by rw [← String.append_assoc]; rfl⟩
  | false => exact ⟨" ", by decide, by rw [← String.append_assoc]; rfl⟩

/-- **The rows of a table are read back** from its INSERT statement: for each row a tuple with a
value for each column that has one in some row. The values under no column are left out, with one
warning for each. -/
theorem insertText_reads (d : Dialect) (options : GenerateOptions)
    (filled : ∃ row ∈ t.rows, ∃ c ∈ t.columns, row.contains c.id = true) :
    ∃ (columns : List Column) (values : String) (omitted : List (Nat × String)),
      columns = (t.columns.filter fun c => t.rows.any (·.contains c.id)) ∧
      t.insertText d options = "INSERT INTO " ++ d.tableName options t.name ++ " (" ++
        ", ".intercalate (columns.map fun c => d.quoteIdentifier c.name) ++ ") VALUES" ++ values ++
          ";" ∧
      d.readTuples? values = some (t.rows.map fun row => columns.map fun c =>
        match row.find? c.id with
        | some value => d.valueLiteral value (some c.dataType)
        | none => "NULL") ∧
      (omitted.Nodup ∧ ∀ place key, (place, key) ∈ omitted ↔
        ∃ row, t.rows[place]? = some row ∧ row.contains key = true ∧
          ∀ c ∈ t.columns, c.id ≠ key) ∧
      t.insertWarnings = omitted.map fun (place, key) => t.strayValueText (place + 1) key := by
  have nonempty : t.filledColumns ≠ [] := by
    obtain ⟨row, isRow, c, isColumn, contains⟩ := filled
    exact List.ne_nil_of_mem
      (List.mem_filter.mpr ⟨isColumn, List.any_eq_true.mpr ⟨row, isRow, contains⟩⟩)
  have rows : t.rows ≠ [] := by
    obtain ⟨row, isRow, -⟩ := filled
    exact List.ne_nil_of_mem isRow
  have warnings : t.insertWarnings = t.strayValues := by
    rw [insertWarnings, if_neg (by simpa using nonempty), List.append_nil]
  obtain ⟨lead, blank, written⟩ := insertText_of_filled (d := d) nonempty options
  exact ⟨t.filledColumns, _, t.strays, rfl, written, readTuples?_cells nonempty rows blank,
    ⟨t.nodup_strays, fun _ _ => mem_strays_iff⟩, warnings.trans t.strayValues_eq_map⟩

/-! ### A guest book -/

/-- A guest book with quotes, commas, parentheses and a backslash in its rows. The rows have no key
in common, and the first one has a value under no column. -/
def guestBook : Table :=
  { id := "g", name := "guests",
    columns :=
      [ { id := "n", name := "name", dataType := .text },
        { id := "s", name := "since", dataType := .year },
        { id := "t", name := "tags", dataType := .json } ],
    rows :=
      [ .ofList [("n", .string "a', (b\\"), ("x", .bool true)],
        .ofList [("t", .array [.string "c)", .null])] ] }

theorem insertText_guestBook :
    (∃ row ∈ guestBook.rows, ∃ c ∈ guestBook.columns, row.contains c.id = true) ∧
      (∃ values, guestBook.insertText .mysql {} =
          "INSERT INTO `guests` (`name`, `tags`) VALUES" ++ values ++ ";" ∧
        Dialect.mysql.readTuples? values =
          some [["'a'', (b\\\\'", "NULL"], ["NULL", "'[\"c)\",null]'"]]) ∧
      guestBook.insertWarnings =
        ["Row 1 of table 'guests' has a value for unknown column 'x'; ignored"] := by
  have filled : ∃ row ∈ guestBook.rows, ∃ c ∈ guestBook.columns, row.contains c.id = true := by
    decide
  obtain ⟨columns, values, _, listed, written, read, -, -⟩ := insertText_reads .mysql {} filled
  subst listed
  refine ⟨filled, ⟨values, written.trans ?_, read.trans ?_⟩, ?_⟩
  · congr 2
  · decide +kernel
  · decide +kernel

end Table

end SchemaCompiler
