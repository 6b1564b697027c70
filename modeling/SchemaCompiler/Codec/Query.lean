/-
**Queries as JSON.**

A query is decoded from the fields of its records. A reader of a query's text wants no more than
these fields, so `Query.wanted` names them, at every depth.
-/

import SchemaCompiler.Codec.Basic
import SchemaCompiler.Json.Reader

namespace SchemaCompiler

open Decode (Fields required optional nullable record)

namespace ColumnRef

/-- The fields of a reference. -/
def fields : Fields ColumnRef :=
  ColumnRef.mk <$> required "table" Decode.text <*> required "column" Decode.text

/-- A reference to a column. -/
def decode : Decoder ColumnRef :=
  record "ColumnRef" fields

/-- The object of a reference. -/
def encode (ref : ColumnRef) : Json :=
  .object [("table", .string ref.table), ("column", .string ref.column)]

end ColumnRef

namespace SelectedColumn

/-- The fields of a selected column. -/
def fields : Fields SelectedColumn :=
  SelectedColumn.mk <$> required "table" Decode.text <*> required "column" Decode.text
    <*> optional "aggregate" Aggregate.decode .none <*> nullable "alias" Decode.text

/-- A selected column. -/
def decode : Decoder SelectedColumn :=
  record "SelectedColumn" fields

/-- The object of a selected column. -/
def encode (c : SelectedColumn) : Json :=
  .object
    [("table", .string c.table), ("column", .string c.column), ("aggregate", c.aggregate.encode),
      ("alias", .optionalText c.givenAlias)]

end SelectedColumn

namespace Join

/-- The fields of a join. -/
def fields : Fields Join :=
  Join.mk <$> required "leftTable" Decode.text <*> required "leftColumn" Decode.text
    <*> required "rightTable" Decode.text <*> required "rightColumn" Decode.text
    <*> optional "kind" JoinKind.decode .inner

/-- A join. -/
def decode : Decoder Join :=
  record "Join" fields

/-- The object of a join. -/
def encode (j : Join) : Json :=
  .object
    [("leftTable", .string j.leftTable), ("leftColumn", .string j.leftColumn),
      ("rightTable", .string j.rightTable), ("rightColumn", .string j.rightColumn),
      ("kind", j.kind.encode)]

end Join

namespace Condition

/-- The fields of a condition. -/
def fields : Fields Condition :=
  Condition.mk <$> required "table" Decode.text <*> required "column" Decode.text
    <*> required "operator" Operator.decode <*> optional "value" Decode.text ""
    <*> optional "connective" Connective.decode .and
    <*> optional "aggregate" Aggregate.decode .none

/-- A condition. -/
def decode : Decoder Condition :=
  record "Condition" fields

/-- The object of a condition. -/
def encode (c : Condition) : Json :=
  .object
    [("table", .string c.table), ("column", .string c.column), ("operator", c.operator.encode),
      ("value", .string c.value), ("connective", c.connective.encode),
      ("aggregate", c.aggregate.encode)]

end Condition

namespace OrderBy

/-- The fields of an entry of the order. -/
def fields : Fields OrderBy :=
  OrderBy.mk <$> required "table" Decode.text <*> required "column" Decode.text
    <*> optional "direction" Direction.decode .asc

/-- An entry of the order. -/
def decode : Decoder OrderBy :=
  record "OrderBy" fields

/-- The object of an entry of the order. -/
def encode (o : OrderBy) : Json :=
  .object
    [("table", .string o.table), ("column", .string o.column), ("direction", o.direction.encode)]

end OrderBy

namespace Query

/-- The fields of a query, every one of which may be missing. -/
def fields : Fields Query :=
  Query.mk <$> optional "tables" (Decode.list Decode.text) []
    <*> optional "columns" (Decode.list SelectedColumn.decode) []
    <*> optional "joins" (Decode.list Join.decode) []
    <*> optional "filters" (Decode.list Condition.decode) []
    <*> optional "groupBy" (Decode.list ColumnRef.decode) []
    <*> optional "having" (Decode.list Condition.decode) []
    <*> optional "orderBy" (Decode.list OrderBy.decode) []
    <*> nullable "limit" Decode.word64 <*> nullable "offset" Decode.word64

/-- A query. -/
def decode : Decoder Query :=
  record "QueryConfig" fields

/-- What is wanted of a field. -/
def wantedOf : String → Json.Wanted
  | "columns" => .items (.fields SelectedColumn.fields.names)
  | "joins" => .items (.fields Join.fields.names)
  | "filters" => .items (.fields Condition.fields.names)
  | "groupBy" => .items (.fields ColumnRef.fields.names)
  | "having" => .items (.fields Condition.fields.names)
  | "orderBy" => .items (.fields OrderBy.fields.names)
  | _ => .whole

/-- What is wanted of a query. -/
def wanted : Json.Wanted :=
  .record (fields.names.map fun name => (name, wantedOf name))

/-- The object of a query. -/
def encode (q : Query) : Json :=
  .object
    [("tables", .texts q.tables), ("columns", Encode.list SelectedColumn.encode q.columns),
      ("joins", Encode.list Join.encode q.joins),
      ("filters", Encode.list Condition.encode q.filters),
      ("groupBy", Encode.list ColumnRef.encode q.groupBy),
      ("having", Encode.list Condition.encode q.having),
      ("orderBy", Encode.list OrderBy.encode q.orderBy),
      ("limit", Encode.option Encode.word64 q.limit),
      ("offset", Encode.option Encode.word64 q.offset)]

end Query

end SchemaCompiler
