/-
**The names of constraints.**

A primary key of several columns is named when it was given a name, and every foreign key has one: the name
of its relationship or, where that is blank, a name made of the table and of the column that the key starts
from. Names that were given can be told apart by those who give them. A name that was made tells apart the
columns of a table, but not two keys that start from one column: the names of the constraints of a table
are distinct exactly when no column starts two keys without names.

* `Dialect.constraintName?_render` — the name that an engine reads in a definition.
* `Relationship.keyName?_cases` — the name of a foreign key is given or made.
* `Table.nodup_constraintNames_iff` — when the names are distinct.
* `Table.createText_constraintNames` — the contract.
-/

import SchemaCompiler.Proofs.Generation.Relationships
import SchemaCompiler.Proofs.Lexical.Scan
import SchemaCompiler.Proofs.Validation.Legality

namespace SchemaCompiler

/-! ### Reading names -/

/-- The front of a text from behind an opening mark to the first mark that closes it; two marks stand for
one. -/
def takeQuoted (mark : Char) : List Char → Option (List Char)
  | [] => none
  | [c] => if c = mark then some [] else none
  | c :: next :: rest =>
    if c = mark then
      if next = mark then (takeQuoted mark rest).map (mark :: ·) else some []
    else (takeQuoted mark (next :: rest)).map (c :: ·)

namespace Dialect

/-- The name that an engine reads for the constraint of a definition: it stands between quotes behind the
keyword. -/
def constraintName? (d : Dialect) (definition : String) : Option String :=
  match definition.toList.dropPrefix? "CONSTRAINT ".toList with
  | some (c :: rest) =>
    if c = d.quoteMark then (takeQuoted d.quoteMark rest).map String.ofList else none
  | _ => none

end Dialect

theorem takeQuoted_cons_of_ne {mark c : Char} (other : c ≠ mark) (rest : List Char) :
    takeQuoted mark (c :: rest) = (takeQuoted mark rest).map (c :: ·) := by
  cases rest with
  | nil => simp [takeQuoted, other]
  | cons next rest => rw [takeQuoted, if_neg other]

/-- **What is read in front of a blank** is what was put between the quotes. -/
theorem takeQuoted_quoted (d : Dialect) (name rest : List Char) :
    takeQuoted d.quoteMark (name.flatMap d.nameChar ++ d.quoteMark :: ' ' :: rest) = some name := by
  have noBlank : ' ' ≠ d.quoteMark := by cases d <;> decide
  induction name with
  | nil => simp [takeQuoted, noBlank]
  | cons c name ih =>
    rw [List.flatMap_cons, List.append_assoc]
    by_cases same : c = d.quoteMark
    · rw [Dialect.nameChar, if_pos same, same, List.cons_append, List.singleton_append, takeQuoted,
        if_pos rfl, if_pos rfl, ih, Option.map_some]
    · rw [Dialect.nameChar, if_neg same, List.singleton_append, takeQuoted_cons_of_ne same, ih,
        Option.map_some]

namespace Dialect

variable {d : Dialect}

/-- A definition that does not start as the keyword does names no constraint. -/
theorem constraintName?_eq_none {definition : String} {first : Char} {rest : List Char}
    (chars : definition.toList = first :: rest) (other : first ≠ 'C') :
    d.constraintName? definition = none := by
  have noKeyword : definition.toList.dropPrefix? "CONSTRAINT ".toList = none := by
    rw [Option.eq_none_iff_forall_ne_some]
    intro behind found
    obtain ⟨keyword, whole, isKeyword⟩ := List.dropPrefix?_eq_some_iff.mp found
    rw [eq_of_beq isKeyword, chars] at whole
    exact other (List.cons.inj whole).1
  rw [constraintName?, noKeyword]

/-- The name behind the keyword is read as it was. -/
theorem constraintName?_named (name rest : String) :
    d.constraintName? ("CONSTRAINT " ++ d.quoteIdentifier name ++ (" " ++ rest)) = some name := by
  have blank : " ".toList = [' '] := rfl
  have behindKeyword :
      ("CONSTRAINT " ++ d.quoteIdentifier name ++ (" " ++ rest)).toList.dropPrefix?
        "CONSTRAINT ".toList =
        some (d.quoteMark ::
          (name.toList.flatMap d.nameChar ++ d.quoteMark :: ' ' :: rest.toList)) := by
    refine List.dropPrefix?_eq_some_iff.mpr ⟨_, ?_, beq_self_eq_true _⟩
    simp only [String.toList_append, toList_quoteIdentifier, blank, List.append_assoc,
      List.cons_append, List.nil_append]
  simp only [constraintName?, behindKeyword, if_pos, takeQuoted_quoted, Option.map_some,
    String.ofList_toList]

end Dialect

/-! ### The names of definitions -/

/-- The name of the constraint of a definition. -/
def Definition.constraintName? : Definition → Option String
  | .column _ => none
  | .primaryKey name _ => name
  | .foreignKey key => some key.name

/-- **The name that is read** in a definition is its own. -/
theorem Dialect.constraintName?_render (d : Dialect) (options : GenerateOptions)
    (definition : Definition) :
    d.constraintName? (definition.render d options) = definition.constraintName? := by
  cases definition with
  | column definition =>
    -- A column starts with the mark of its name.
    obtain ⟨rest, whole⟩ := exists_intercalate_cons " " (d.quoteIdentifier definition.name)
      (definition.typeName :: definition.clauses.map (·.render d))
    have chars : ((Definition.column definition).render d options).toList =
        d.quoteMark :: (definition.name.toList.flatMap d.nameChar ++ [d.quoteMark] ++ rest.toList) := by
      show (" ".intercalate (d.quoteIdentifier definition.name ::
        definition.typeName :: definition.clauses.map (·.render d))).toList = _
      rw [whole, String.toList_append, toList_quoteIdentifier, List.cons_append, List.cons_append]
    exact constraintName?_eq_none chars (by cases d <;> decide)
  | primaryKey name columns =>
    cases name with
    | none =>
      have chars : ((Definition.primaryKey none columns).render d options).toList =
          'P' :: ("RIMARY KEY ".toList ++ (nameList d columns).toList) := by
        show ("PRIMARY KEY " ++ nameList d columns).toList = _
        rw [String.toList_append]
        rfl
      exact constraintName?_eq_none chars (by decide)
    | some name =>
      have named : (Definition.primaryKey (some name) columns).render d options =
          "CONSTRAINT " ++ d.quoteIdentifier name ++
            (" " ++ ("PRIMARY KEY " ++ nameList d columns)) := by
        rw [← String.append_assoc]
        rfl
      rw [named, constraintName?_named]
      rfl
  | foreignKey key =>
    obtain ⟨rest, named⟩ : ∃ rest, (Definition.foreignKey key).render d options =
        "CONSTRAINT " ++ d.quoteIdentifier key.name ++ (" " ++ rest) := by
      have keyword : " FOREIGN KEY (" = " " ++ "FOREIGN KEY (" := rfl
      show ∃ rest, key.render d options = _
      unfold ForeignKey.render
      rw [keyword]
      simp only [String.append_assoc]
      exact ⟨_, rfl⟩
    rw [named, constraintName?_named]
    rfl

/-! ### The names of foreign keys -/

/-- The name that is made for a foreign key. -/
def Table.madeName (t : Table) (c : Column) : String :=
  "fk_" ++ t.name ++ "_" ++ c.name

namespace Relationship

/-- The name that is given to a relationship, unless it is blank. -/
def givenName? (r : Relationship) : Option String :=
  Text.trim? (some r.name)

/-- The name of the foreign key of a relationship, if one is written for it. -/
def keyName? (r : Relationship) (t : Table) (tables : List Table) : Option String :=
  if r.sourceTableId = t.id then
    match r.resolve t tables with
    | .ok ends => some (t.foreignKeyOf r ends).name
    | .error _ => none
  else none

/-- A relationship of a table that is written and has no name. -/
structure IsUnnamedKey (r : Relationship) (t : Table) (tables : List Table) : Prop where
  own : r.sourceTableId = t.id
  unnamed : r.givenName? = none
  joins : ∃ ends, r.Joins t tables ends

variable {r : Relationship} {t : Table} {tables : List Table} {name : String}

theorem givenName?_eq : r.givenName? = if Text.allBlank r.name then none else some (Text.trim r.name) := by
  unfold givenName? Text.trim? Text.allBlank
  by_cases blank : Text.trim r.name = ""
  · simp [blank]
  · simp [blank]

theorem foreignKeyOf_name (ends : ResolvedRelationship) :
    (t.foreignKeyOf r ends).name = r.givenName?.getD (t.madeName ends.sourceColumn) := by
  rw [givenName?_eq]
  unfold Table.foreignKeyOf
  by_cases blank : Text.allBlank r.name = true
  · simp only [if_pos blank]
    rfl
  · simp only [if_neg blank]
    rfl

/-- **The name of a foreign key** is made for the column that it starts from, or it was given. -/
theorem keyName?_cases (named : r.keyName? t tables = some name) :
    (r.IsUnnamedKey t tables ∧
        ∃ c, t.columnById? r.sourceColumnId = some c ∧ name = t.madeName c) ∨
      r.givenName? = some name := by
  unfold keyName? at named
  split at named
  · rename_i own
    split at named
    · rename_i ends resolved
      have joins := resolve_eq_ok_iff_joins.mp resolved
      rw [Option.some_inj, foreignKeyOf_name] at named
      cases given : r.givenName? with
      | some text =>
        rw [given] at named
        exact .inr (congrArg some named)
      | none =>
        rw [given] at named
        exact .inl ⟨⟨own, given, ends, joins⟩, ends.sourceColumn, joins.source, named.symm⟩
    · cases named
  · cases named

/-- A key without a name has the one that is made for its column. -/
theorem IsUnnamedKey.keyName?_eq (isKey : r.IsUnnamedKey t tables) :
    ∃ c, t.columnById? r.sourceColumnId = some c ∧ r.keyName? t tables = some (t.madeName c) := by
  obtain ⟨ends, joins⟩ := isKey.joins
  refine ⟨ends.sourceColumn, joins.source, ?_⟩
  rw [keyName?, if_pos isKey.own, resolve_eq_ok_iff_joins.mpr joins]
  show some (t.foreignKeyOf r ends).name = _
  rw [foreignKeyOf_name, isKey.unnamed, Option.getD_none]

end Relationship

namespace Table

variable {t : Table} {tables : List Table} {d : Dialect} {options : GenerateOptions}

/-- The names that are given to the primary key and to the relationships of a table. -/
def givenNames (t : Table) : List String :=
  t.keyName?.toList ++ t.relationships.filterMap (·.givenName?)

/-- The names of the constraints of a table. -/
def constraintNames (t : Table) (tables : List Table) : List String :=
  (if t.hasCompositeKey then t.keyName?.toList else []) ++
    t.relationships.filterMap (·.keyName? t tables)

theorem filterMap_constraintName?_definitions :
    ((t.definitions tables d options).map (·.render d options)).filterMap d.constraintName? =
      t.constraintNames tables := by
  have ofColumns : (t.columnDefinitions d options).filterMap (·.constraintName?) = [] := by
    rw [columnDefinitions, List.filterMap_map]
    exact List.filterMap_eq_nil_iff.mpr fun _ _ => rfl
  have ofKey : t.keyDefinitions.filterMap (·.constraintName?) =
      if t.hasCompositeKey then t.keyName?.toList else [] := by
    unfold keyDefinitions
    by_cases composite : t.hasCompositeKey = true
    · rw [if_pos composite, if_pos composite]
      cases t.keyName? <;> rfl
    · rw [if_neg composite, if_neg composite, List.filterMap_nil]
  have ofForeignKeys : ((t.foreignKeys tables).map Definition.foreignKey).filterMap
      (·.constraintName?) = t.relationships.filterMap (·.keyName? t tables) := by
    unfold foreignKeys ownRelationships
    rw [List.filterMap_filter, List.map_filterMap, List.filterMap_filterMap]
    congr 1
    funext r
    unfold Relationship.keyName?
    by_cases own : r.sourceTableId = t.id
    · rw [if_pos (beq_iff_eq.mpr own), if_pos own]
      cases r.resolve t tables <;> rfl
    · rw [if_neg (mt beq_iff_eq.mp own), if_neg own]
      rfl
  rw [List.filterMap_map]
  simp only [Function.comp_def, Dialect.constraintName?_render]
  rw [definitions, List.filterMap_append, List.filterMap_append, ofColumns, ofKey, ofForeignKeys]
  rfl

/-! ### Distinct names -/

theorem columnById?_eq_some {id : String} {c : Column} (found : t.columnById? id = some c) :
    c ∈ t.columns ∧ c.id = id :=
  ⟨List.mem_of_find?_eq_some found, by simpa using List.find?_some found⟩

/-- A name that was made tells the columns of a table apart. -/
theorem id_eq_of_madeName_eq (distinct : (t.columns.map fun c => nameKey c.name).Nodup)
    {id other : String} {c found : Column} (byId : t.columnById? id = some c)
    (byOther : t.columnById? other = some found) (same : t.madeName c = t.madeName found) :
    id = other := by
  obtain ⟨isColumn, rfl⟩ := columnById?_eq_some byId
  obtain ⟨isFound, rfl⟩ := columnById?_eq_some byOther
  have sameName : c.name = found.name := by
    simpa [madeName, String.ext_iff, String.toList_append] using same
  exact congrArg Column.id
    (List.inj_on_of_nodup_map distinct isColumn isFound (congrArg nameKey sameName))

theorem startsAsMade (t : Table) (c : Column) : "fk_".toList <+: (t.madeName c).toList := by
  simp only [madeName, String.toList_append, List.append_assoc]
  exact List.prefix_append ..

/-- No column starts two keys without names. -/
def UnnamedKeysStartApart (t : Table) (tables : List Table) : Prop :=
  t.relationships.Pairwise fun r other => ¬ (r.IsUnnamedKey t tables ∧ other.IsUnnamedKey t tables ∧
    r.sourceColumnId = other.sourceColumnId)

section Distinct

variable (distinct : (t.columns.map fun c => nameKey c.name).Nodup) (given : t.givenNames.Nodup)
  (apart : ∀ name ∈ t.givenNames, ¬ "fk_".toList <+: name.toList)

theorem mem_givenNames {r : Relationship} (stored : r ∈ t.relationships) {name : String}
    (named : r.givenName? = some name) : name ∈ t.givenNames :=
  List.mem_append_right _ (List.mem_filterMap.mpr ⟨r, stored, named⟩)

include apart in
/-- No name that was given is one that was made. -/
theorem ne_madeName {name : String} (isGiven : name ∈ t.givenNames) (c : Column) :
    name ≠ t.madeName c := by
  rintro rfl
  exact apart _ isGiven (t.startsAsMade c)

include distinct given apart in
/-- The names of foreign keys are distinct as far as those that were made for them are. -/
theorem nodup_keyNames_iff :
    (t.relationships.filterMap (·.keyName? t tables)).Nodup ↔ t.UnnamedKeysStartApart tables := by
  rw [List.Nodup, List.pairwise_filterMap]
  constructor
  · refine List.Pairwise.imp fun {r other} differ both => ?_
    obtain ⟨isKey, isOtherKey, same⟩ := both
    obtain ⟨c, isColumn, named⟩ := isKey.keyName?_eq
    obtain ⟨found, isFound, otherNamed⟩ := isOtherKey.keyName?_eq
    rw [same, isFound, Option.some_inj] at isColumn
    rw [← isColumn] at named
    exact differ _ named _ otherNamed rfl
  · intro startApart
    have givenDiffer := List.pairwise_filterMap.mp (List.nodup_append.mp given).2.1
    refine (startApart.and givenDiffer).imp_of_mem fun {r other} stored otherStored differ => ?_
    obtain ⟨notBothUnnamed, givenDiffer⟩ := differ
    rintro name named _ otherNamed rfl
    -- Each of the names was made or given: made ones tell columns apart, and no given one is a made one.
    rcases Relationship.keyName?_cases named with ⟨isKey, c, isColumn, isMade⟩ | isGiven
    · rcases Relationship.keyName?_cases otherNamed with
        ⟨isOtherKey, found, isFound, isOtherMade⟩ | isOtherGiven
      · have same := id_eq_of_madeName_eq distinct isColumn isFound (isMade.symm.trans isOtherMade)
        exact notBothUnnamed ⟨isKey, isOtherKey, same⟩
      · exact ne_madeName apart (mem_givenNames otherStored isOtherGiven) c isMade
    · rcases Relationship.keyName?_cases otherNamed with ⟨-, found, -, isOtherMade⟩ | isOtherGiven
      · exact ne_madeName apart (mem_givenNames stored isGiven) found isOtherMade
      · exact givenDiffer _ isGiven _ isOtherGiven rfl

include distinct given apart in
/-- **The names of constraints are distinct** exactly when no column starts two keys without names. -/
theorem nodup_constraintNames_iff :
    (t.constraintNames tables).Nodup ↔ t.UnnamedKeysStartApart tables := by
  obtain ⟨keyNodup, -, keyDiffers⟩ := List.nodup_append.mp given
  have ofKey : (if t.hasCompositeKey then t.keyName?.toList else []).Sublist t.keyName?.toList := by
    split
    · exact List.Sublist.refl _
    · exact List.nil_sublist _
  have differ : ∀ name ∈ (if t.hasCompositeKey then t.keyName?.toList else []),
      ∀ other ∈ t.relationships.filterMap (·.keyName? t tables), name ≠ other := by
    intro name isName other isOther
    obtain ⟨r, stored, named⟩ := List.mem_filterMap.mp isOther
    have ofKeyName := ofKey.subset isName
    rcases Relationship.keyName?_cases named with ⟨-, c, -, rfl⟩ | isGiven
    · exact ne_madeName apart (List.mem_append_left _ ofKeyName) c
    · exact keyDiffers name ofKeyName other (List.mem_filterMap.mpr ⟨r, stored, isGiven⟩)
  rw [constraintNames, List.nodup_append, ← nodup_keyNames_iff distinct given apart]
  exact ⟨fun nodup => nodup.2.1, fun nodup => ⟨ofKey.nodup keyNodup, nodup, differ⟩⟩

end Distinct

/-- **When the names of constraints are distinct.** A table without errors has a text, and if the names that
were given to its key and to its relationships are distinct and none starts as a made one does, then the
names in this text are distinct exactly when no column starts two keys without names. The text has the
parts between its parentheses as `inParentheses_pretty` and `inParentheses_plain` say. -/
theorem createText_constraintNames {check : Dialect} (valid : (t.validate check).errors = [])
    (given : t.givenNames.Nodup) (apart : ∀ name ∈ t.givenNames, ¬ "fk_".toList <+: name.toList)
    (tables : List Table) (d : Dialect) (options : GenerateOptions) :
    ∃ text parts after, t.createText tables d options = .ok text ∧
      parts = (t.definitions tables d options).map (·.render d options) ∧
      text = "CREATE TABLE " ++ (if options.ifNotExists then "IF NOT EXISTS " else "") ++
        d.tableName options t.name ++ inParentheses options.pretty parts ++ after ∧
      ((parts.filterMap d.constraintName?).Nodup ↔ t.UnnamedKeysStartApart tables) := by
  have clean := validate_errors_eq_nil_iff.mp valid
  obtain ⟨text, written⟩ := exists_createText clean tables d options
  obtain ⟨after, whole⟩ := exists_createText_eq written
  refine ⟨text, _, after, written, rfl, whole, ?_⟩
  rw [filterMap_constraintName?_definitions]
  exact nodup_constraintNames_iff (errors_eq_nil_iff_isLegal.mp clean).distinct given apart

/-! ### Flights, and transfers to two tables -/

/-- Flights between airports. Their key has a name, two relationships without names start from two columns,
and one with a name shares the column of the first. -/
def flights : Table :=
  { id := "f", name := "flights",
    columns :=
      [ { id := "n", name := "number", dataType := .integer, nullable := false,
          constraints := [.primaryKey] },
        { id := "d", name := "day", dataType := .date, nullable := false,
          constraints := [.primaryKey] },
        { id := "o", name := "start", dataType := .integer },
        { id := "e", name := "finish", dataType := .integer } ],
    compositeKeyName := some " flights_key ",
    relationships :=
      [ { id := "r", name := "", sourceTableId := "f", sourceColumnId := "o", targetTableId := "a",
          targetColumnId := "k" },
        { id := "s", name := " ", sourceTableId := "f", sourceColumnId := "e", targetTableId := "a",
          targetColumnId := "k" },
        { id := "u", name := "flights_start", sourceTableId := "f", sourceColumnId := "o",
          targetTableId := "a", targetColumnId := "k" } ] }

/-- A table of a key only. -/
def keyedTable (id name : String) : Table :=
  { id, name, columns := [{ id := "k", name := "id", dataType := .integer, nullable := false,
                            constraints := [.primaryKey] }] }

theorem createText_constraintNames_flights :
    (flights.validate .mysql).errors = [] ∧ flights.givenNames.Nodup ∧
      (∀ name ∈ flights.givenNames, ¬ "fk_".toList <+: name.toList) ∧
      ∃ parts, parts = (flights.definitions [keyedTable "a" "airports"] .mysql {}).map
          (·.render .mysql {}) ∧
        (parts.filterMap Dialect.mysql.constraintName?).Nodup := by
  have valid : (flights.validate .mysql).errors = [] := by decide
  have given : flights.givenNames.Nodup := by decide
  have apart : ∀ name ∈ flights.givenNames, ¬ "fk_".toList <+: name.toList := by decide
  obtain ⟨_, parts, _, -, isParts, -, distinct⟩ :=
    createText_constraintNames valid given apart [keyedTable "a" "airports"] .mysql {}
  have startApart : flights.relationships.Pairwise fun r other =>
      ¬ (r.givenName? = none ∧ other.givenName? = none ∧
        r.sourceColumnId = other.sourceColumnId) := by
    decide
  exact ⟨valid, given, apart, parts, isParts, distinct.mpr <| startApart.imp fun differ both =>
    differ ⟨both.1.unnamed, both.2.1.unnamed, both.2.2⟩⟩

/-- Transfers refer to accounts and to holders by one column. -/
def transfers : Table :=
  { id := "t", name := "transfers",
    columns :=
      [ { id := "k", name := "id", dataType := .integer, nullable := false,
          constraints := [.primaryKey] },
        { id := "a", name := "account", dataType := .integer } ],
    relationships :=
      [ { id := "r", name := "", sourceTableId := "t", sourceColumnId := "a", targetTableId := "a",
          targetColumnId := "k" },
        { id := "s", name := "", sourceTableId := "t", sourceColumnId := "a", targetTableId := "h",
          targetColumnId := "k" } ] }

/-- One name is made for both keys that start from a column. -/
theorem constraintNames_transfers :
    (transfers.validate .postgres).errors = [] ∧ transfers.givenNames = [] ∧
      (transfers.generate [keyedTable "a" "accounts", keyedTable "h" "holders"] .postgres {}).sql =
        "CREATE TABLE IF NOT EXISTS \"transfers\" (\"id\" INTEGER NOT NULL PRIMARY KEY, " ++
          "\"account\" INTEGER, " ++
          "CONSTRAINT \"fk_transfers_account\" FOREIGN KEY (\"account\") " ++
            "REFERENCES \"accounts\" (\"id\"), " ++
          "CONSTRAINT \"fk_transfers_account\" FOREIGN KEY (\"account\") " ++
            "REFERENCES \"holders\" (\"id\"));" ∧
      ¬ (((transfers.definitions [keyedTable "a" "accounts", keyedTable "h" "holders"]
        .postgres {}).map (·.render .postgres {})).filterMap
          Dialect.postgres.constraintName?).Nodup := by
  refine ⟨by decide, by decide, by decide +kernel, ?_⟩
  rw [filterMap_constraintName?_definitions]
  decide +kernel

end Table

end SchemaCompiler
