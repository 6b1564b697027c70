/-
**Schemas in canonical form.**

A schema is in canonical form when names, defaults and key names have no blanks at their ends, no
default and no key name is blank, no constraint is repeated, and a column of a primary key is not
nullable and says NOT NULL. What is in this form stays as it is, and everything is brought into it.
Nothing else is touched: a constraint stays where it occurs first, and whether a column is of the key
or takes null values stays the same. So a legal schema stays legal.

* `Column.normalize_eq` — the canonical form of a column, field by field.
* `Table.isCanonical_normalize`, `Table.normalize_eq_self_iff` — what is brought into the form, and
  what is in it.
* `Table.IsLegal.normalize`, `Database.IsLegal.normalize` — the rules that a legal schema still meets.
* `normalize_is_canonical` — the contract.
-/

import SchemaCompiler.Migration.Normalization
import SchemaCompiler.Proofs.FirstOccurrences
import SchemaCompiler.Proofs.Traversal
import SchemaCompiler.Proofs.Validation.Legality

namespace SchemaCompiler

/-! ### Texts without padding -/

namespace Text

/-- A text that starts and ends with characters that are not blank, so that it is neither blank nor
padded. -/
def Unpadded (text : String) : Prop :=
  (∃ c ∈ text.toList.head?, isBlank c = false) ∧ ∃ c ∈ text.toList.getLast?, isBlank c = false

theorem Unpadded.ne_empty {text : String} (unpadded : Unpadded text) : text ≠ "" := by
  rintro rfl
  obtain ⟨⟨_, isFirst, -⟩, -⟩ := unpadded
  cases isFirst

theorem Unpadded.trim_eq {text : String} (unpadded : Unpadded text) : trim text = text := by
  obtain ⟨⟨first, isFirst, firstVisible⟩, last, isLast, lastVisible⟩ := unpadded
  rw [trim, trimmed_eq_self, String.ofList_toList]
  · intro c same
    rwa [Option.mem_unique same isFirst]
  · intro c same
    rwa [Option.mem_unique same isLast]

/-- A trimmed text is blank or without padding. -/
theorem unpadded_trim {text : String} (visible : trim text ≠ "") : Unpadded (trim text) := by
  have nonempty : trimmed text.toList ≠ [] := fun none => visible (by rw [trim, none])
  rw [Unpadded, trim, String.toList_ofList]
  refine ⟨⟨_, List.head?_eq_some_head nonempty, ?_⟩, _, List.getLast?_eq_some_getLast nonempty, ?_⟩
  · exact isBlank_head?_trimmed _ _ (List.head?_eq_some_head nonempty)
  · exact isBlank_getLast?_trimmed _ _ (List.getLast?_eq_some_getLast nonempty)

theorem unpadded_of_mem_trim? {given : Option String} : ∀ text ∈ trim? given, Unpadded text := by
  intro text kept
  obtain ⟨isTrimmed, visible⟩ := Option.filter_eq_some_iff.mp kept
  obtain ⟨original, -, rfl⟩ := Option.map_eq_some_iff.mp isTrimmed
  exact unpadded_trim (by simpa using visible)

/-- **An optional text stays as it is** exactly when it is not padded. -/
theorem trim?_eq_self_iff {given : Option String} :
    trim? given = given ↔ ∀ text ∈ given, Unpadded text := by
  constructor
  · intro same
    rw [← same]
    exact unpadded_of_mem_trim?
  · intro unpadded
    cases given with
    | none => rfl
    | some text =>
      have ofText := unpadded text rfl
      simp [trim?, ofText.trim_eq, ofText.ne_empty]

end Text

/-! ### Constraints -/

/-- Constraints without repetitions, in which a key is followed by a NOT NULL if there is none. -/
def canonicalConstraints (constraints : List Constraint) : List Constraint :=
  if constraints.contains .primaryKey && !constraints.contains .notNull then
    constraints.eraseDups ++ [.notNull]
  else constraints.eraseDups

theorem mem_canonicalConstraints {constraint : Constraint} (other : constraint ≠ .notNull)
    {constraints : List Constraint} :
    constraint ∈ canonicalConstraints constraints ↔ constraint ∈ constraints := by
  unfold canonicalConstraints
  split <;> simp [other]

theorem notNull_mem_canonicalConstraints {constraints : List Constraint} :
    .notNull ∈ canonicalConstraints constraints ↔
      .notNull ∈ constraints ∨ .primaryKey ∈ constraints := by
  unfold canonicalConstraints
  by_cases key : .primaryKey ∈ constraints <;> by_cases notNull : .notNull ∈ constraints <;>
    simp [key, notNull]

theorem nodup_canonicalConstraints (constraints : List Constraint) :
    (canonicalConstraints constraints).Nodup := by
  unfold canonicalConstraints
  split
  · rename_i lacking
    have new : .notNull ∉ constraints.eraseDups := by
      simpa using (Bool.and_eq_true_iff.mp lacking).2
    rw [← List.concat_eq_append]
    exact (nodup_eraseDups constraints).concat new
  · exact nodup_eraseDups _

/-- Constraints are canonical when none is repeated and a key comes with a NOT NULL. -/
theorem canonicalConstraints_eq_self {constraints : List Constraint} (distinct : constraints.Nodup)
    (complete : .primaryKey ∈ constraints → .notNull ∈ constraints) :
    canonicalConstraints constraints = constraints := by
  have noneLacking : ¬ (constraints.contains .primaryKey && !constraints.contains .notNull) = true := by
    simpa using complete
  rw [canonicalConstraints, if_neg noneLacking, eraseDups_of_nodup distinct]

/-! ### Columns -/

namespace Column

/-- A column in canonical form. -/
structure IsCanonical (c : Column) : Prop where
  name : Text.trim c.name = c.name
  default : ∀ text ∈ c.defaultText, Text.Unpadded text
  constraints : c.constraints.Nodup
  key : c.isPrimaryKey = true → c.nullable = false ∧ c.has .notNull = true

/-- What stays of a column that is brought into canonical form: everything but padding, a default that
is blank, and whether a key is said to be nullable. Its constraints stay where they occur first, and a
key that lacks a NOT NULL gets one in the end. -/
structure IsKeptBy (c canonical : Column) : Prop where
  id : canonical.id = c.id
  name : canonical.name = Text.trim c.name
  default : canonical.defaultText = c.default?
  dataType : canonical.dataType = c.dataType
  length : canonical.length = c.length
  precision : canonical.precision = c.precision
  scale : canonical.scale = c.scale
  comment : canonical.comment = c.comment
  extensions : canonical.extensions = c.extensions
  isPrimaryKey : canonical.isPrimaryKey = c.isPrimaryKey
  isNotNull : canonical.isNotNull = c.isNotNull
  constraints : ∃ kept, FirstOccurrences c.constraints kept ∧
    canonical.constraints = kept ++ when (c.isPrimaryKey && !c.has .notNull) .notNull

variable (c : Column)

/-- **The canonical form of a column**, field by field. -/
theorem normalize_eq :
    c.normalize =
      { c with
        name := Text.trim c.name,
        defaultText := Text.trim? c.defaultText,
        nullable := c.nullable && !c.isPrimaryKey,
        constraints := canonicalConstraints c.constraints } := by
  have sameHas : ∀ constraint, c.constraints.eraseDups.contains constraint =
      c.constraints.contains constraint := by
    intro constraint
    rw [Bool.eq_iff_iff]
    simp
  unfold normalize withKeyNotNull canonicalConstraints
  simp only [isPrimaryKey, has, sameHas]
  cases c.constraints.contains .primaryKey <;> cases c.constraints.contains .notNull <;> simp

theorem has_normalize {constraint : Constraint} (other : constraint ≠ .notNull) :
    c.normalize.has constraint = c.has constraint := by
  rw [Bool.eq_iff_iff, normalize_eq]
  simpa [has] using mem_canonicalConstraints other

theorem isPrimaryKey_normalize : c.normalize.isPrimaryKey = c.isPrimaryKey :=
  has_normalize c (by decide)

theorem isAutoIncrement_normalize : c.normalize.isAutoIncrement = c.isAutoIncrement :=
  has_normalize c (by decide)

theorem has_notNull_normalize :
    c.normalize.has .notNull = (c.has .notNull || c.isPrimaryKey) := by
  rw [Bool.eq_iff_iff, normalize_eq]
  simpa [has, isPrimaryKey] using notNull_mem_canonicalConstraints

/-- **Whether a column takes null values** is the same in canonical form. -/
theorem isNotNull_normalize : c.normalize.isNotNull = c.isNotNull := by
  have nullable : c.normalize.nullable = (c.nullable && !c.isPrimaryKey) := by rw [normalize_eq]
  rw [isNotNull, isNotNull, nullable, has_notNull_normalize, isPrimaryKey_normalize]
  cases c.nullable <;> cases c.has .notNull <;> cases c.isPrimaryKey <;> rfl

/-- **A column is brought into canonical form.** -/
theorem isCanonical_normalize : c.normalize.IsCanonical := by
  have ofKey : c.normalize.isPrimaryKey = true →
      c.normalize.nullable = false ∧ c.normalize.has .notNull = true := by
    rw [isPrimaryKey_normalize, has_notNull_normalize, normalize_eq]
    intro isKey
    simp [isKey]
  rw [normalize_eq] at ofKey ⊢
  exact ⟨Text.trim_trim c.name, Text.unpadded_of_mem_trim?, nodup_canonicalConstraints _, ofKey⟩

variable {c}

/-- **The columns in canonical form** are those that stay as they are. -/
theorem normalize_eq_self_iff : c.normalize = c ↔ c.IsCanonical := by
  constructor
  · intro same
    rw [← same]
    exact isCanonical_normalize c
  · intro canonical
    have nullable : (c.nullable && !c.isPrimaryKey) = c.nullable := by
      cases isKey : c.isPrimaryKey with
      | true => rw [(canonical.key isKey).1, Bool.false_and]
      | false => rw [Bool.not_false, Bool.and_true]
    have constraints : canonicalConstraints c.constraints = c.constraints := by
      refine canonicalConstraints_eq_self canonical.constraints fun isKey => ?_
      exact List.contains_iff_mem.mp (canonical.key (List.contains_iff_mem.mpr isKey)).2
    rw [normalize_eq, canonical.name, Text.trim?_eq_self_iff.mpr canonical.default, nullable,
      constraints]

theorem isKeptBy_normalize (c : Column) : c.IsKeptBy c.normalize := by
  have constraints : canonicalConstraints c.constraints =
      c.constraints.eraseDups ++ when (c.isPrimaryKey && !c.has .notNull) .notNull := by
    unfold canonicalConstraints isPrimaryKey has when
    split
    · rfl
    · rw [List.append_nil]
  have isPrimaryKey := isPrimaryKey_normalize c
  have isNotNull := isNotNull_normalize c
  rw [normalize_eq] at isPrimaryKey isNotNull ⊢
  exact ⟨rfl, rfl, rfl, rfl, rfl, rfl, rfl, rfl, rfl, isPrimaryKey, isNotNull, _,
    firstOccurrences_eraseDups _, constraints⟩

end Column

/-! ### Tables -/

namespace Table

/-- A table in canonical form. -/
structure IsCanonical (t : Table) : Prop where
  name : Text.trim t.name = t.name
  keyName : ∀ text ∈ t.compositeKeyName, Text.Unpadded text
  columns : ∀ c ∈ t.columns, c.IsCanonical
  indexes : ∀ index ∈ t.indexes, Text.trim index.name = index.name
  relationships : ∀ r ∈ t.relationships, Text.trim r.name = r.name

/-- What stays of a table that is brought into canonical form: its columns, each as far as it stays,
and everything else but padding and a name of the key that is blank. -/
structure IsKeptBy (t canonical : Table) : Prop where
  id : canonical.id = t.id
  name : canonical.name = Text.trim t.name
  keyName : canonical.compositeKeyName = t.keyName?
  comment : canonical.comment = t.comment
  rows : canonical.rows = t.rows
  columns : List.Forall₂ Column.IsKeptBy t.columns canonical.columns
  indexes : List.Forall₂ (fun index other => other = { index with name := Text.trim index.name })
    t.indexes canonical.indexes
  relationships : List.Forall₂ (fun r other => other = { r with name := Text.trim r.name })
    t.relationships canonical.relationships

variable {t : Table} {d : Dialect}

/-- **A table is brought into canonical form.** -/
theorem isCanonical_normalize (t : Table) : t.normalize.IsCanonical where
  name := Text.trim_trim t.name
  keyName := Text.unpadded_of_mem_trim?
  columns := List.forall_mem_map.mpr fun c _ => c.isCanonical_normalize
  indexes := List.forall_mem_map.mpr fun index _ => Text.trim_trim index.name
  relationships := List.forall_mem_map.mpr fun r _ => Text.trim_trim r.name

/-- **The tables in canonical form** are those that stay as they are. -/
theorem normalize_eq_self_iff : t.normalize = t ↔ t.IsCanonical := by
  constructor
  · intro same
    rw [← same]
    exact isCanonical_normalize t
  · intro canonical
    have columns : t.columns.map (·.normalize) = t.columns :=
      Traversal.map_eq_self_iff.mpr fun c member =>
        Column.normalize_eq_self_iff.mpr (canonical.columns c member)
    have indexes : t.indexes.map (·.normalize) = t.indexes :=
      Traversal.map_eq_self_iff.mpr fun index member => by
        rw [Index.normalize, canonical.indexes index member]
    have relationships : t.relationships.map (·.normalize) = t.relationships :=
      Traversal.map_eq_self_iff.mpr fun r member => by
        rw [Relationship.normalize, canonical.relationships r member]
    rw [normalize, canonical.name, Text.trim?_eq_self_iff.mpr canonical.keyName, columns, indexes,
      relationships]

theorem isKeptBy_normalize (t : Table) : t.IsKeptBy t.normalize := by
  unfold normalize
  refine ⟨rfl, rfl, rfl, rfl, rfl, ?columns, ?indexes, ?relationships⟩
  case columns => exact Traversal.forall₂_map fun c _ => c.isKeptBy_normalize
  case indexes => exact Traversal.forall₂_map fun _ _ => rfl
  case relationships => exact Traversal.forall₂_map fun _ _ => rfl

theorem primaryKey_normalize (t : Table) :
    t.normalize.primaryKey = t.primaryKey.map (·.normalize) := by
  have sameTest : Column.isPrimaryKey ∘ Column.normalize = Column.isPrimaryKey :=
    funext Column.isPrimaryKey_normalize
  show (t.columns.map _).filter _ = (t.columns.filter _).map _
  rw [List.filter_map, sameTest]

end Table

/-! ### Legal schemas -/

theorem nameKey_trim (name : String) : nameKey (Text.trim name) = nameKey name := by
  rw [nameKey, nameKey, Text.trim_trim]

/-- **A legal column stays legal.** -/
theorem Column.IsLegal.normalize {c : Column} {t : Table} {d : Dialect} (legal : c.IsLegal t d) :
    c.normalize.IsLegal t.normalize d := by
  have kept := c.isKeptBy_normalize
  refine ⟨?_, kept.dataType ▸ legal.dataType, ?_, ?_, fun counts => ?_⟩
  · rw [kept.name, Text.trim_trim]
    exact legal.name
  · -- Only a key gets a NOT NULL, and it is not nullable then.
    rintro ⟨nullable, notNull⟩
    rw [normalize_eq] at nullable notNull
    obtain ⟨wasNullable, noKey⟩ := Bool.and_eq_true_iff.mp nullable
    rcases notNull_mem_canonicalConstraints.mp notNull with wasNotNull | isKey
    · exact legal.nullable ⟨wasNullable, wasNotNull⟩
    · simp [isPrimaryKey, has, isKey] at noKey
  · intro text given
    rw [kept.default] at given
    obtain ⟨isTrimmed, -⟩ := Option.filter_eq_some_iff.mp given
    obtain ⟨original, wasGiven, rfl⟩ := Option.map_eq_some_iff.mp isTrimmed
    rw [Text.trim_trim, kept.dataType]
    exact legal.default original wasGiven
  · rw [normalize_eq] at counts
    obtain ⟨numeric, inSqlite⟩ := legal.counting ((mem_canonicalConstraints (by decide)).mp counts)
    rw [kept.dataType]
    refine ⟨numeric, fun isSqlite => ?_⟩
    obtain ⟨integer, isKey⟩ := inSqlite isSqlite
    rw [Table.primaryKey_normalize, isKey]
    exact ⟨integer, rfl⟩

theorem Table.HasColumn.normalize {t : Table} {id : String} (found : t.HasColumn id) :
    t.normalize.HasColumn id := by
  obtain ⟨c, member, rfl⟩ := found
  exact ⟨c.normalize, List.mem_map_of_mem member, c.isKeptBy_normalize.id⟩

/-- **A legal table stays legal.** -/
theorem Table.IsLegal.normalize {t : Table} {d : Dialect} (legal : t.IsLegal d) :
    t.normalize.IsLegal d where
  nonempty := mt List.map_eq_nil_iff.mp legal.nonempty
  name := (Text.trim_trim t.name).symm ▸ legal.name
  unreserved := (Text.trim_trim t.name).symm ▸ legal.unreserved
  distinct := by
    have sameKeys : (t.columns.map (·.normalize)).map (fun c => nameKey c.name) =
        t.columns.map fun c => nameKey c.name := by
      rw [List.map_map]
      refine List.map_congr_left fun c _ => ?_
      rw [Function.comp_apply, c.isKeptBy_normalize.name, nameKey_trim]
    exact sameKeys ▸ legal.distinct
  columns := List.forall_mem_map.mpr fun c member => (legal.columns c member).normalize
  indexes := List.forall_mem_map.mpr fun index member => by
    obtain ⟨covers, known⟩ := legal.indexes index member
    rw [Index.normalize]
    exact ⟨covers, fun id isId => (known id isId).normalize⟩
  relationships := List.forall_mem_map.mpr fun r member => by
    rw [Relationship.normalize, t.isKeptBy_normalize.id]
    exact fun isOwn => (legal.relationships r member isOwn).normalize

/-- **A legal database stays legal.** -/
theorem Database.IsLegal.normalize {db : Database} {d : Dialect} (legal : db.IsLegal d) :
    db.normalize.IsLegal d where
  tables := List.forall_mem_map.mpr fun t member => (legal.tables t member).normalize
  distinct := by
    have sameKeys : (db.tables.map (·.normalize)).map (fun t => nameKey t.name) =
        db.tables.map fun t => nameKey t.name := by
      rw [List.map_map]
      exact List.map_congr_left fun t _ => nameKey_trim t.name
    exact sameKeys ▸ legal.distinct

/-- **Every schema is brought into canonical form**, and once is enough. In it names have no padding, no
default and no key name is blank or padded, no constraint is repeated, and keys are not nullable and say
NOT NULL. Everything else stays, constraints where they occur first, and what has no errors in a dialect
has none in canonical form. -/
theorem normalize_is_canonical :
    (∀ t : Table, t.normalize.normalize = t.normalize ∧ t.normalize.IsCanonical ∧
        t.IsKeptBy t.normalize ∧
        ∀ d, (t.validate d).errors = [] → (t.normalize.validate d).errors = []) ∧
      ∀ (db : Database) (d : Dialect),
        (db.validate d).errors = [] → (db.normalize.validate d).errors = [] := by
  refine ⟨fun t => ⟨?_, t.isCanonical_normalize, t.isKeptBy_normalize, fun d valid => ?_⟩,
    fun db d valid => ?_⟩
  · exact Table.normalize_eq_self_iff.mpr t.isCanonical_normalize
  · rw [Table.validate_errors_eq_nil_iff, Table.errors_eq_nil_iff_isLegal] at valid ⊢
    exact valid.normalize
  · rw [Database.validate_errors_eq_nil_iff, Database.errors_eq_nil_iff_isLegal] at valid ⊢
    exact valid.normalize

/-! ### Members of a choir -/

/-- Members with padded names, a key that does not say that it is not null, a constraint that stands
three times and a blank default. -/
def choir : Table :=
  { id := "t", name := "  members ",
    columns :=
      [ { id := "n", name := " number", dataType := .integer,
          constraints := [.unique, .primaryKey, .unique, .autoIncrement, .unique] },
        { id := "v", name := "voice", dataType := .varchar, length := some 5,
          defaultText := some "\t'alto' " },
        { id := "s", name := "since", dataType := .date, defaultText := some "  " } ],
    indexes := [{ id := "i", name := " by_voice ", columnIds := ["v", "n"] }],
    compositeKeyName := some " " }

theorem normalize_is_canonical_choir :
    (choir.validate .sqlite).errors = [] ∧ (choir.normalize.validate .sqlite).errors = [] ∧
      ((Database.ofTable choir).validate .mysql).errors = [] ∧
      ((Database.ofTable choir).normalize.validate .mysql).errors = [] ∧
      choir.normalize.columns =
        [ { id := "n", name := "number", dataType := .integer, nullable := false,
            constraints := [.unique, .primaryKey, .autoIncrement, .notNull] },
          { id := "v", name := "voice", dataType := .varchar, length := some 5,
            defaultText := some "'alto'" },
          { id := "s", name := "since", dataType := .date } ] := by
  obtain ⟨ofTables, ofDatabases⟩ := normalize_is_canonical
  obtain ⟨-, -, -, staysValid⟩ := ofTables choir
  have valid : (choir.validate .sqlite).errors = [] := by decide
  have databaseValid : ((Database.ofTable choir).validate .mysql).errors = [] := by decide
  exact ⟨valid, staysValid _ valid, databaseValid, ofDatabases _ _ databaseValid, by decide⟩

end SchemaCompiler
