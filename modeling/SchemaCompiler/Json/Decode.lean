/-
**Decoding JSON values.**

A decoder turns a JSON value into a value of a type or says why it cannot. A record is decoded
from an object, whose members may stand in any order and of which those with unknown names are
passed over, or from an array of its fields in order. Of several faults in a record the first
faulty member is reported, and a missing field only when no member is faulty.
-/

import SchemaCompiler.Json.Number
import SchemaCompiler.Text.Escaped

namespace SchemaCompiler

/-- What a decoder found in place of what it wanted. -/
inductive Found where
  | null
  | boolean (value : Bool)
  | integer (value : Int)
  | float (value : Binary64)
  | string (value : String)
  | sequence
  | map
  | unitVariant

/-- The words for what was found. -/
def Found.text : Found → String
  | .null => "null"
  | .boolean true => "boolean `true`"
  | .boolean false => "boolean `false`"
  | .integer value => "integer `" ++ toString value ++ "`"
  | .float value => "floating point `" ++ Json.Number.floatText value ++ "`"
  | .string value => "string " ++ Text.escaped value
  | .sequence => "sequence"
  | .map => "map"
  | .unitVariant => "unit variant"

/-- Why a value cannot be decoded. -/
inductive DecodeError where
  | invalidType (found : Found) (wanted : String)
  | invalidValue (found : Found) (wanted : String)
  | invalidLength (length : Nat) (wanted : String)
  | missingField (name : String)
  | repeatedField (name : String)
  | unknownVariant (name : String) (known : List String)

/-- The words for the variants that were wanted. -/
def variantsText : List String → String
  | [] => "there are no variants"
  | [only] => "expected `" ++ only ++ "`"
  | [first, second] => "expected `" ++ first ++ "` or `" ++ second ++ "`"
  | known => "expected one of " ++ ", ".intercalate (known.map fun name => "`" ++ name ++ "`")

/-- The message of a decoding error. -/
def DecodeError.message : DecodeError → String
  | .invalidType found wanted => "invalid type: " ++ found.text ++ ", expected " ++ wanted
  | .invalidValue found wanted => "invalid value: " ++ found.text ++ ", expected " ++ wanted
  | .invalidLength length wanted =>
    "invalid length " ++ toString length ++ ", expected " ++ wanted
  | .missingField name => "missing field `" ++ name ++ "`"
  | .repeatedField name => "duplicate field `" ++ name ++ "`"
  | .unknownVariant name known => "unknown variant `" ++ name ++ "`, " ++ variantsText known

/-- A decoder for values of a type. -/
abbrev Decoder (α : Type) := Json → Except DecodeError α

namespace Decode

variable {α β : Type}

/-- What a JSON value is, for messages. -/
def found : Json → Found
  | .null => .null
  | .bool value => .boolean value
  | .number (.integer value) => .integer value
  | .number (.float value) => .float value
  | .string value => .string value
  | .array _ => .sequence
  | .object _ => .map

/-- The error for a value of the wrong type. -/
def wrongType (wanted : String) (value : Json) : Except DecodeError α :=
  .error (.invalidType (found value) wanted)

/-! ### Single values -/

/-- Any value. -/
def json : Decoder Json := .ok

/-- A string. -/
def text : Decoder String
  | .string value => .ok value
  | value => wrongType "a string" value

/-- A boolean. -/
def bool : Decoder Bool
  | .bool value => .ok value
  | value => wrongType "a boolean" value

/-- A string of one character. -/
def character : Decoder Char
  | .string value =>
    match value.toList with
    | [c] => .ok c
    | _ => .error (.invalidValue (.string value) "a character")
  | value => wrongType "a character" value

/-- A natural number below a bound. -/
def below (bound : Nat) (wanted : String) : Decoder Nat
  | .number (.integer value) =>
    if 0 ≤ value ∧ value < bound then .ok value.toNat
    else .error (.invalidValue (.integer value) wanted)
  | value => wrongType wanted value

/-- A natural number of 32 bits. -/
def word32 (value : Json) : Except DecodeError UInt32 :=
  (below UInt32.size "u32" value).map UInt32.ofNat

/-- A natural number of 64 bits. -/
def word64 (value : Json) : Except DecodeError UInt64 :=
  (below UInt64.size "u64" value).map UInt64.ofNat

/-- A count, which is a natural number of 64 bits. -/
def count (value : Json) : Except DecodeError UInt64 :=
  (below UInt64.size "usize" value).map UInt64.ofNat

/-! ### Values made of values -/

/-- Null or a value. -/
def option (decoder : Decoder α) : Decoder (Option α)
  | .null => .ok none
  | value => (decoder value).map some

/-- An array of values. -/
def list (decoder : Decoder α) : Decoder (List α)
  | .array items => items.mapM decoder
  | value => wrongType "a sequence" value

/-- An object as a list of keys and values. -/
def pairs (key : String → Except DecodeError β) (decoder : Decoder α) : Decoder (List (β × α))
  | .object members => members.mapM fun member => do
    let name ← key member.1
    let value ← decoder member.2
    return (name, value)
  | value => wrongType "a map" value

/-- An object with arbitrary keys. -/
def dictionary (decoder : Decoder α) (value : Json) : Except DecodeError (Dictionary α) :=
  (pairs .ok decoder value).map Dictionary.ofList

/-- The variant with a name. -/
def named (all : List α) (name : α → String) (wanted : String) : Except DecodeError α :=
  match all.find? fun variant => name variant == wanted with
  | some variant => .ok variant
  | none => .error (.unknownVariant wanted (all.map name))

/-- A variant without payload, given by its name or by an object from its name to null. -/
def oneOf (all : List α) (name : α → String) : Decoder α
  | .string wanted => named all name wanted
  | .object [(wanted, payload)] => do
    let variant ← named all name wanted
    match payload with
    | .null => return variant
    | payload => wrongType "unit" payload
  | .object _ => .error (.invalidValue .map "map with a single key")
  | value => wrongType "string or map" value

/-! ### Records -/

/-- The members that a record is decoded from. The fields of an array have a place each. -/
structure Members where
  typeName : String
  names : List String
  inArray : Bool
  values : List (String × Json)

/-- A fault of a record: the place of the faulty member, or the number of members when a field is
missing. -/
structure Fault where
  place : Nat
  cause : DecodeError

/-- A decoder for fields of a record, with their names. -/
structure Fields (α : Type) where
  names : List String
  run : Members → Except Fault α

/-- The results of two decoders; of two faults the one in front is kept. -/
def both (first : Except Fault (α → β)) (second : Except Fault α) : Except Fault β :=
  match first, second with
  | .ok f, .ok value => .ok (f value)
  | .error fault, .ok _ => .error fault
  | .ok _, .error fault => .error fault
  | .error fault, .error other => .error (if other.place < fault.place then other else fault)

instance : Functor Fields where
  map f fields := ⟨fields.names, fun members => (fields.run members).map f⟩

instance : Seq Fields where
  seq first second :=
    ⟨first.names ++ (second ()).names, fun members =>
      both (first.run members) ((second ()).run members)⟩

/-- The number of fields of a record, in words. -/
def elementsText (count : Nat) : String :=
  toString count ++ if count = 1 then " element" else " elements"

/-- The fault of a missing field. -/
def missing (name : String) (members : Members) : Fault :=
  ⟨members.values.length,
    if members.inArray then
      .invalidLength (members.names.idxOf name)
        ("struct " ++ members.typeName ++ " with " ++ elementsText members.names.length)
    else .missingField name⟩

/-- A field that takes a default when it is missing. -/
def optional (name : String) (decoder : Decoder α) (default : α) : Fields α :=
  ⟨[name], fun members =>
    match Entries.find? name members.values with
    | none => .ok default
    | some value =>
      (decoder value).mapError fun cause => ⟨members.values.findIdx (·.1 = name), cause⟩⟩

/-- A field that must be present. -/
def required (name : String) (decoder : Decoder α) : Fields α :=
  ⟨[name], fun members =>
    match Entries.find? name members.values with
    | none => .error (missing name members)
    | some value =>
      (decoder value).mapError fun cause => ⟨members.values.findIdx (·.1 = name), cause⟩⟩

/-- A field that is absent when it is missing or null. -/
def nullable (name : String) (decoder : Decoder α) : Fields (Option α) :=
  optional name (option decoder) none

/-- A record with the given fields. -/
def record (typeName : String) (fields : Fields α) : Decoder α
  | .object members =>
    match fields.names.find? fun name => 1 < members.countP (·.1 = name) with
    | some name => .error (.repeatedField name)
    | none => (fields.run ⟨typeName, fields.names, false, members⟩).mapError (·.cause)
  | .array items => do
    let members := fields.names.zip items
    let value ← (fields.run ⟨typeName, fields.names, true, members⟩).mapError (·.cause)
    if fields.names.length < items.length then
      throw (.invalidLength items.length "fewer elements in array")
    return value
  | value => wrongType ("struct " ++ typeName) value

end Decode

end SchemaCompiler
