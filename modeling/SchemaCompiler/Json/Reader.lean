/-
**Reading JSON.**

A text is read when it has the form of a value and everything in it has a value: its strings hold
whole characters, its numbers are in range, and at most `nestingLimit` arrays and objects contain
each other. A reader that wants only some members of an object passes over the others, which need
no more than the right form.
-/

import SchemaCompiler.Json.Form

namespace SchemaCompiler.Json

/-! ### What is wanted -/

/-- What a reader wants of a value: the whole of it, a part of each item of an array, or of an
object some members. An array in the place of a record holds the fields in their order. -/
inductive Wanted where
  | whole
  | items (part : Wanted)
  | record (fields : List (String × Wanted))

/-- The wanted record with the whole of each field. -/
def Wanted.fields (names : List String) : Wanted :=
  .record (names.map fun name => (name, .whole))

/-- What is wanted of the item of an array in a place. -/
def Wanted.item : Wanted → Nat → Wanted
  | .whole, _ => .whole
  | .items part, _ => part
  | .record fields, place => (fields[place]?.map (·.2)).getD .whole

/-- What is wanted of a member of an object; nothing when it is passed over. -/
def Wanted.member? : Wanted → String → Option Wanted
  | .record fields, name => fields.lookup name
  | _, _ => some .whole

/-! ### Values -/

namespace Form

mutual

/-- The value of a form, without the members that are not wanted. At most `depth` of the arrays
and objects in it may contain each other. -/
def value? (wanted : Wanted) : Nat → Form → Option Json
  | _, .scalar value => value
  | 0, _ => none
  | depth + 1, .array items => (itemValues? wanted depth 0 items).map .array
  | depth + 1, .object members => (memberValues? wanted depth members).map .object

/-- The values of items, the first of which has a place. -/
def itemValues? (wanted : Wanted) (depth : Nat) : Nat → List Form → Option (List Json)
  | _, [] => some []
  | place, item :: rest =>
    (value? (wanted.item place) depth item).bind fun value =>
      (itemValues? wanted depth (place + 1) rest).map (value :: ·)

/-- The wanted members, each of which must have a value. Every member must have a name. -/
def memberValues? (wanted : Wanted) (depth : Nat) :
    List (Option String × Form) → Option (List (String × Json))
  | [] => some []
  | (none, _) :: _ => none
  | (some name, form) :: rest =>
    match wanted.member? name with
    | none => memberValues? wanted depth rest
    | some part =>
      (value? part depth form).bind fun value =>
        (memberValues? wanted depth rest).map ((name, value) :: ·)

end

end Form

/-! ### Texts -/

/-- The greatest number of arrays and objects that may contain each other. -/
def nestingLimit : Nat := 127

/-- The wanted part of the value that a text writes, with the members of objects as they stand in
the text. -/
def readWanted? (wanted : Wanted) (text : String) : Option Json :=
  (Form.ofText? text).bind (·.value? wanted nestingLimit)

/-- The value that a text writes, with the members of objects as they stand in the text. -/
def read? (text : String) : Option Json :=
  readWanted? .whole text

end SchemaCompiler.Json
