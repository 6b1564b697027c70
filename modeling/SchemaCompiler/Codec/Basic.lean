/-
**Encoding and decoding.**

The vocabularies of a schema are encoded by the names of their values, and records as objects with
their fields in the order of the declaration. A field may be left out of an object when it holds
nothing.
-/

import SchemaCompiler.Constraint
import SchemaCompiler.DataType
import SchemaCompiler.Dialect
import SchemaCompiler.Json.Decode
import SchemaCompiler.Query.Basic
import SchemaCompiler.Schema.Relationship

namespace SchemaCompiler

namespace Encode

/-- A field that is left out when it holds nothing. -/
def present {α : Type} (name : String) (encode : α → Json) (value : Option α) :
    List (String × Json) :=
  value.toList.map fun value => (name, encode value)

/-- A value, or null for want of one. -/
def option {α : Type} (encode : α → Json) (value : Option α) : Json :=
  (value.map encode).getD .null

/-- An array. -/
def list {α : Type} (encode : α → Json) (items : List α) : Json :=
  .array (items.map encode)

/-- A natural number of 32 bits. -/
def word32 (n : UInt32) : Json := .natural n.toNat

/-- A natural number of 64 bits. -/
def word64 (n : UInt64) : Json := .natural n.toNat

/-- An object with arbitrary keys. -/
def dictionary {α : Type} (encode : α → Json) (d : Dictionary α) : Json :=
  .object (d.entries.map fun (key, value) => (key, encode value))

end Encode

/-! ### Vocabularies -/

/-- A data type by its name. -/
def DataType.decode : Decoder DataType := Decode.oneOf all name

/-- The name of a data type. -/
def DataType.encode (t : DataType) : Json := .string t.name

/-- A dialect by its name. -/
def Dialect.decode : Decoder Dialect := Decode.oneOf all name

/-- The name of a dialect. -/
def Dialect.encode (d : Dialect) : Json := .string d.name

/-- A cardinality by its name. -/
def Cardinality.decode : Decoder Cardinality := Decode.oneOf all name

/-- The name of a cardinality. -/
def Cardinality.encode (c : Cardinality) : Json := .string c.name

/-- A referential action by its name. -/
def ReferentialAction.decode : Decoder ReferentialAction := Decode.oneOf all name

/-- The name of a referential action. -/
def ReferentialAction.encode (a : ReferentialAction) : Json := .string a.name

/-- An aggregate by its name. -/
def Aggregate.decode : Decoder Aggregate := Decode.oneOf all name

/-- The name of an aggregate. -/
def Aggregate.encode (a : Aggregate) : Json := .string a.name

/-- A kind of join by its name. -/
def JoinKind.decode : Decoder JoinKind := Decode.oneOf all name

/-- The name of a kind of join. -/
def JoinKind.encode (kind : JoinKind) : Json := .string kind.name

/-- An operator by its SQL spelling. -/
def Operator.decode : Decoder Operator := Decode.oneOf all sql

/-- The SQL spelling of an operator. -/
def Operator.encode (o : Operator) : Json := .string o.sql

/-- A connective by its SQL keyword. -/
def Connective.decode : Decoder Connective := Decode.oneOf all sql

/-- The SQL keyword of a connective. -/
def Connective.encode (c : Connective) : Json := .string c.sql

/-- A direction by its SQL keyword. -/
def Direction.decode : Decoder Direction := Decode.oneOf all sql

/-- The SQL keyword of a direction. -/
def Direction.encode (d : Direction) : Json := .string d.sql

/-! ### Constraints -/

namespace Constraint

/-- The constraints without payload and, for its name, a check. -/
def kinds : List Constraint :=
  [.primaryKey, .unique, .notNull, .autoIncrement, .foreignKey, .check "", .default]

/-- The payload of a check. -/
def decodeCheck : Json → Except DecodeError Constraint
  | .object members =>
    Decode.record "Check" (check <$> Decode.required "expression" Decode.text) (.object members)
  | payload => Decode.wrongType "struct variant" payload

/-- A constraint: its label, or for a check an object from the label to its expression. -/
def decode : Decoder Constraint
  | .object [(label, payload)] => do
    let kind ← Decode.named kinds Constraint.label label
    match kind with
    | .check _ => decodeCheck payload
    | kind =>
      match payload with
      | .null => return kind
      | payload => Decode.wrongType "unit" payload
  | value => do
    match ← Decode.oneOf kinds Constraint.label value with
    | .check _ => throw (.invalidType .unitVariant "struct variant")
    | kind => return kind

/-- The label of a constraint; a check with its expression. -/
def encode : Constraint → Json
  | .check expression =>
    .object [(Constraint.label (.check expression), .object [("expression", .string expression)])]
  | constraint => .string constraint.label

end Constraint

end SchemaCompiler
