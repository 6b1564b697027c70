/-
**JSON values.**

A number is an integer or a binary floating-point number. The members of an object stand in a
list, as a text lists them; `inKeyOrder` puts them into increasing order of the keys, at every
depth, and keeps the last member of each key.
-/

import SchemaCompiler.Binary64.Basic
import SchemaCompiler.Dictionary

namespace SchemaCompiler

namespace Json

/-- A JSON number. -/
inductive Number where
  | integer (value : Int)
  | float (value : Binary64)
  deriving DecidableEq

end Json

/-- A JSON value. -/
inductive Json where
  | null
  | bool (value : Bool)
  | number (value : Json.Number)
  | string (value : String)
  | array (items : List Json)
  | object (members : List (String × Json))
  deriving Inhabited

namespace Json

mutual

/-- The value with the members of every object in key order, one for each key. -/
def inKeyOrder : Json → Json
  | .array items => .array (itemsInKeyOrder items)
  | .object members => .object (Entries.inOrder (membersInKeyOrder members))
  | .null => .null
  | .bool value => .bool value
  | .number value => .number value
  | .string value => .string value

/-- `inKeyOrder` for each item. -/
def itemsInKeyOrder : List Json → List Json
  | [] => []
  | item :: rest => inKeyOrder item :: itemsInKeyOrder rest

/-- `inKeyOrder` for the value of each member. -/
def membersInKeyOrder : List (String × Json) → List (String × Json)
  | [] => []
  | (key, value) :: rest => (key, inKeyOrder value) :: membersInKeyOrder rest

end

/-- The value of a member of an object. -/
def member? (key : String) : Json → Option Json
  | .object members => Entries.find? key members
  | _ => none

/-- A natural number. -/
def natural (n : Nat) : Json :=
  .number (.integer n)

/-- A text, or null. -/
def optionalText (text : Option String) : Json :=
  (text.map Json.string).getD .null

/-- An array of texts. -/
def texts (items : List String) : Json :=
  .array (items.map .string)

end Json

end SchemaCompiler
