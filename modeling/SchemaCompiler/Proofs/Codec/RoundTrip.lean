/-
**Round trips.**

A value that was accepted is written as a value that is accepted again, and the same is made of it:

* `Accepted` — something in key order is decoded to a value; `Accepted.of_list`,
  `Accepted.of_dictionary`, `Accepted.of_record` and `Accepted.of_optional` say that the parts of
  the value are accepted then.
* `rowsStay_of_accepted` — the rows of an accepted database hold values in key order.
* `decode_encode` — every database and every query is read back from what is written of it, with
  the members as they are written or in key order.
-/

import SchemaCompiler.Proofs.Codec.Schemas

namespace SchemaCompiler

open Decode

variable {α β : Type} {decoder : Decoder α}

/-! ### Taking fields -/

namespace Decode

theorem run_map_eq_ok_iff {fields : Fields α} {f : α → β} {members : Members} {made : β} :
    (f <$> fields).run members = .ok made ↔
      ∃ value, fields.run members = .ok value ∧ f value = made :=
  Traversal.map_eq_ok_iff

theorem run_seq_eq_ok_iff {first : Fields (α → β)} {second : Fields α} {members : Members}
    {made : β} :
    (first <*> second).run members = .ok made ↔
      ∃ f value, first.run members = .ok f ∧ second.run members = .ok value ∧ f value = made := by
  show both (first.run members) (second.run members) = .ok made ↔ _
  cases first.run members <;> cases second.run members <;> simp [both]

end Decode

/-! ### Accepted values -/

/-- A value in key order is decoded to the given one. -/
def Accepted (decoder : Decoder α) (value : α) : Prop :=
  ∃ json : Json, json.inKeyOrder = json ∧ decoder json = .ok value

namespace Accepted

/-- The items of an accepted list are accepted. -/
theorem of_list {items : List α} (accepted : Accepted (Decode.list decoder) items) :
    ∀ item ∈ items, Accepted decoder item := by
  obtain ⟨json, ordered, decoded⟩ := accepted
  intro item listed
  cases json with
  | array values =>
    obtain ⟨value, isValue, made⟩ :=
      Traversal.exists_of_forall₂ (Traversal.mapM_eq_ok_iff.mp decoded) listed
    exact ⟨value, Json.inKeyOrder_item ordered value isValue, made⟩
  | _ => cases decoded

/-- The values of an accepted dictionary are accepted. -/
theorem of_dictionary {d : Dictionary α} (accepted : Accepted (Decode.dictionary decoder) d) :
    ∀ entry ∈ d.entries, Accepted decoder entry.2 := by
  obtain ⟨json, ordered, decoded⟩ := accepted
  intro entry listed
  cases json with
  | object members =>
    obtain ⟨entries, read, rfl⟩ := Traversal.map_eq_ok_iff.mp decoded
    have inEntries : entry ∈ entries := Entries.mem_of_mem_inOrder listed
    obtain ⟨member, isMember, made⟩ :=
      Traversal.exists_of_forall₂ (Traversal.mapM_eq_ok_iff.mp read) inEntries
    obtain ⟨value, valueMade, rfl⟩ := Traversal.return_eq_ok_iff.mp made
    exact ⟨member.2, Json.inKeyOrder_member ordered member isMember, valueMade⟩
  | _ => cases decoded

/-- The fields of an accepted record are taken from members whose values are in key order. -/
theorem of_record {typeName : String} {fields : Fields α} {value : α}
    (accepted : Accepted (Decode.record typeName fields) value) :
    ∃ members : Members, (∀ member ∈ members.values, member.2.inKeyOrder = member.2) ∧
      fields.run members = .ok value := by
  obtain ⟨json, ordered, decoded⟩ := accepted
  cases json with
  | object members =>
    refine ⟨⟨typeName, fields.names, false, members⟩, Json.inKeyOrder_member ordered, ?_⟩
    rw [Decode.record] at decoded
    split at decoded
    · cases decoded
    · exact Traversal.eq_ok_of_mapError decoded
  | array items =>
    refine ⟨⟨typeName, fields.names, true, fields.names.zip items⟩, ?_, ?_⟩
    · intro member listed
      exact Json.inKeyOrder_item ordered member.2 (List.of_mem_zip listed).2
    · cases taken : fields.run ⟨typeName, fields.names, true, fields.names.zip items⟩ with
      | error fault => simp [Decode.record, taken, Except.mapError, bind, Except.bind] at decoded
      | ok other =>
        simp only [Decode.record, taken, Except.mapError, bind, Except.bind] at decoded
        split at decoded
        · cases decoded
        · exact congrArg Except.ok (Except.ok.inj decoded)
  | _ => cases decoded

/-- What a field holds is its default or accepted. -/
theorem of_optional {name : String} {default value : α} {members : Members}
    (ordered : ∀ member ∈ members.values, member.2.inKeyOrder = member.2)
    (taken : (Decode.optional name decoder default).run members = .ok value) :
    value = default ∨ Accepted decoder value := by
  simp only [Decode.optional] at taken
  split at taken
  · exact .inl (Except.ok.inj taken).symm
  · rename_i json found
    obtain ⟨member, isMember, rfl⟩ := Option.map_eq_some_iff.mp found
    exact .inr ⟨member.2, ordered member (List.mem_of_find?_eq_some isMember),
      Traversal.eq_ok_of_mapError taken⟩

end Accepted

/-- The rows of an accepted table hold values in key order. -/
theorem Table.rowsStay_of_accepted {t : Table} (accepted : Accepted Table.decode t) :
    t.RowsStay Json.inKeyOrder := by
  obtain ⟨members, ordered, taken⟩ := accepted.of_record
  simp only [run_seq_eq_ok_iff, run_map_eq_ok_iff] at taken
  obtain ⟨_, rows, ⟨_, _, ⟨_, _, ⟨_, _, ⟨_, _, ⟨_, _, ⟨_, _, ⟨_, _, rfl⟩, _, rfl⟩, _, rfl⟩, _, rfl⟩,
    _, rfl⟩, _, rfl⟩, _, rfl⟩, rowsTaken, rfl⟩ := taken
  intro row isRow entry listed
  rcases Accepted.of_optional ordered rowsTaken with isDefault | rowsAccepted
  · rw [isDefault] at isRow
    cases isRow
  · obtain ⟨value, valueOrdered, made⟩ := (rowsAccepted.of_list row isRow).of_dictionary entry listed
    exact Except.ok.inj made ▸ valueOrdered

/-- **The rows of an accepted database** hold values in key order. -/
theorem Database.rowsStay_of_accepted {db : Database} (accepted : Accepted Database.decode db) :
    db.RowsStay Json.inKeyOrder := by
  obtain ⟨members, ordered, taken⟩ := accepted.of_record
  simp only [run_seq_eq_ok_iff, run_map_eq_ok_iff] at taken
  obtain ⟨_, tables, ⟨_, _, ⟨_, _, rfl⟩, _, rfl⟩, tablesTaken, rfl⟩ := taken
  intro t isTable
  rcases Accepted.of_optional ordered tablesTaken with isDefault | tablesAccepted
  · rw [isDefault] at isTable
    cases isTable
  · exact Table.rowsStay_of_accepted (tablesAccepted.of_list t isTable)

/-! ### The round trip -/

/-- **Every database and every query** is read back from what is written of it, with the members of
objects as they are written and, when the values of the rows are in key order, in key order. What
was accepted is therefore read back again. -/
theorem decode_encode :
    (∀ db : Database, Database.decode db.encode = .ok db) ∧
    (∀ q : Query, Query.decode q.encode = .ok q) ∧
    (∀ db : Database, db.RowsStay Json.inKeyOrder →
      Database.decode db.encode.inKeyOrder = .ok db) ∧
    (∀ q : Query, Query.decode q.encode.inKeyOrder = .ok q) ∧
    (∀ (json : Json) (db : Database), json.inKeyOrder = json → Database.decode json = .ok db →
      Database.decode db.encode.inKeyOrder = .ok db) ∧
    (∀ (json : Json) (q : Query), Query.decode json = .ok q →
      Query.decode q.encode.inKeyOrder = .ok q) := by
  have database : ∀ db : Database, db.RowsStay Json.inKeyOrder →
      Database.decode db.encode.inKeyOrder = .ok db := fun db stays =>
    Json.Arrangement.inKeyOrder.readsBack_database stays
  have query : ∀ q : Query, Query.decode q.encode.inKeyOrder = .ok q :=
    Json.Arrangement.inKeyOrder.readsBack_query
  refine ⟨fun db => ?_, fun q => ?_, database, query, fun json db ordered decoded => ?_,
    fun json q _ => query q⟩
  · exact Json.Arrangement.unchanged.readsBack_database fun _ _ _ _ _ _ => rfl
  · exact Json.Arrangement.unchanged.readsBack_query q
  · exact database db (Database.rowsStay_of_accepted ⟨json, ordered, decoded⟩)

/-! ### An archive -/

namespace Archive

/-- A value of a row may have parts. -/
def details : Json :=
  .object [("pages", .natural 12), ("tags", .array [.string "old", .null])]

/-- The key has a check, an override for SQLite and an empty bag of overrides for MySQL. -/
def items : Table :=
  { id := "t", name := "items", columns := [
      { id := "k", name := "id", dataType := .integer, nullable := false,
        constraints := [.primaryKey, .check "id > 0"],
        extensions := ⟨some .empty, none, some (Dictionary.empty.insert "strict" "yes")⟩ },
      { id := "v", name := "details", dataType := .json, comment := some "" }],
    rows := [Dictionary.ofList [("k", .natural 7), ("v", details)]] }

def archive : Database := { id := "d", name := "archive", tables := [items] }

/-- The archive with an unknown member, and without members for the fields that hold nothing. -/
def archiveJson : Json :=
  .object [("id", .string "d"), ("kept", .bool true), ("name", .string "archive"),
    ("tables", .array [.object [
      ("columns", .array [
        .object [
          ("constraints", .array [.string "PRIMARY_KEY",
            .object [("CHECK", .object [("expression", .string "id > 0")])]]),
          ("extensions", .object [("mysql", .object []),
            ("sqlite", .object [("strict", .string "yes")])]),
          ("id", .string "k"), ("name", .string "id"), ("nullable", .bool false),
          ("type", .string "INTEGER")],
        .object [("comment", .string ""), ("default", .null), ("id", .string "v"),
          ("name", .string "details"), ("type", .string "JSON")]]),
      ("id", .string "t"), ("name", .string "items"),
      ("rows", .array [.object [("k", .natural 7), ("v", details)]])]])]

def bare : Database := { id := "d", name := "bare" }

/-- A record may be an array of its fields. -/
def bareJson : Json := .array [.string "d", .string "bare"]

def counted : Query :=
  { tables := ["items"], columns := [{ table := "items", column := "id", aggregate := .count }],
    filters := [
      { table := "items", column := "id", operator := .gte, value := "7", connective := .or }],
    limit := some 10 }

def countedJson : Json :=
  .object [
    ("columns", .array [.object [("aggregate", .string "COUNT"), ("column", .string "id"),
      ("table", .string "items")]]),
    ("filters", .array [.object [("column", .string "id"), ("connective", .string "OR"),
      ("operator", .string ">="), ("table", .string "items"), ("value", .string "7")]]),
    ("limit", .natural 10), ("offset", .null), ("tables", .array [.string "items"])]

end Archive

open Archive in
theorem decode_encode_archive :
    archive.RowsStay Json.inKeyOrder ∧ Database.decode archive.encode = .ok archive ∧
      Database.decode archive.encode.inKeyOrder = .ok archive ∧
      bareJson.inKeyOrder = bareJson ∧ Database.decode bareJson = .ok bare ∧
      Database.decode bare.encode.inKeyOrder = .ok bare ∧
      Query.decode countedJson = .ok counted ∧ Query.decode counted.encode = .ok counted ∧
      Query.decode counted.encode.inKeyOrder = .ok counted := by
  have stays : archive.RowsStay Json.inKeyOrder :=
    Database.rowsStay_of_accepted ⟨archiveJson, rfl, rfl⟩
  have ordered : bareJson.inKeyOrder = bareJson := rfl
  have accepted : Database.decode bareJson = .ok bare := rfl
  have queryAccepted : Query.decode countedJson = .ok counted := rfl
  obtain ⟨database, query, databaseInOrder, _, databaseAgain, queryAgain⟩ := decode_encode
  exact ⟨stays, database archive, databaseInOrder archive stays, ordered, accepted,
    databaseAgain bareJson bare ordered accepted, queryAccepted, query counted,
    queryAgain countedJson counted queryAccepted⟩

end SchemaCompiler
