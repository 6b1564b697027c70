/-
**The forms of JSON texts.**

The tokens of a text are assembled by a machine with a stack of the arrays and objects still open,
one token a step. What they make is a form, not yet a value: the strings and numbers in it, the
names of members included, may have no value, and arrays and objects may contain each other to any
depth. So a reader can pass over a part of a text that has the right form and no value.
-/

import SchemaCompiler.Json.Token

namespace SchemaCompiler.Json

/-- What a text has the form of, with the values of its scalars and names that have one. -/
inductive Form where
  | scalar (value : Option Json)
  | array (items : List Form)
  | object (members : List (Option String × Form))

/-! ### Assembling tokens -/

/-- An array or object that is still open, its parts in reverse. -/
inductive Open where
  | array (items : List Form)
  | object (members : List (Option String × Form))
  | member (members : List (Option String × Form)) (key : Option String)

/-- What the next token may be. -/
inductive Expecting where
  | value
  | firstItem
  | firstKey
  | key
  | colon
  | separator
  | nothing

/-- An assembly: the arrays and objects that are open, innermost first, and the finished form. -/
structure Assembly where
  opened : List Open
  expecting : Expecting
  result : Option Form

/-- Put a finished form where it belongs. -/
def Assembly.place? (a : Assembly) (form : Form) : Option Assembly :=
  match a.opened with
  | [] => some { a with expecting := .nothing, result := some form }
  | .array items :: outer =>
    some { a with opened := .array (form :: items) :: outer, expecting := .separator }
  | .member members key :: outer =>
    some { a with opened := .object ((key, form) :: members) :: outer, expecting := .separator }
  | .object _ :: _ => none

/-- Open an array or object. -/
def Assembly.push (a : Assembly) (part : Open) (expecting : Expecting) : Assembly :=
  { a with opened := part :: a.opened, expecting := expecting }

/-- Close the innermost array or object and put it where it belongs. -/
def Assembly.close? (a : Assembly) : Option Assembly :=
  match a.opened with
  | .array items :: outer => { a with opened := outer }.place? (.array items.reverse)
  | .object members :: outer => { a with opened := outer }.place? (.object members.reverse)
  | _ => none

/-- Whether the innermost open part is an array. -/
def Assembly.inArray (a : Assembly) : Bool :=
  match a.opened with
  | .array _ :: _ => true
  | _ => false

/-- A token where a value begins. -/
def Assembly.begin? (a : Assembly) : Token → Option Assembly
  | .scalar value => a.place? (.scalar value)
  | .text value => a.place? (.scalar (value.map .string))
  | .openArray => some (a.push (.array []) .firstItem)
  | .openObject => some (a.push (.object []) .firstKey)
  | _ => none

/-- A token where the name of a member stands. -/
def Assembly.name? (a : Assembly) (token : Token) : Option Assembly :=
  match token, a.opened with
  | .text key, .object members :: outer =>
    some { a with opened := .member members key :: outer, expecting := .colon }
  | _, _ => none

/-- One token. -/
def Assembly.step? (a : Assembly) (token : Token) : Option Assembly :=
  match a.expecting, token with
  | .value, token => a.begin? token
  | .firstItem, .closeArray => a.close?
  | .firstItem, token => a.begin? token
  | .firstKey, .closeObject => a.close?
  | .firstKey, token => a.name? token
  | .key, token => a.name? token
  | .colon, .colon => some { a with expecting := .value }
  | .separator, .comma =>
    some { a with expecting := if a.inArray then .value else .key }
  | .separator, .closeArray => if a.inArray then a.close? else none
  | .separator, .closeObject => if a.inArray then none else a.close?
  | _, _ => none

/-- The form that tokens make. -/
def Form.ofTokens? (tokens : List Token) : Option Form :=
  (tokens.foldlM Assembly.step? ⟨[], .value, none⟩).bind (·.result)

/-- The form of a text. -/
def Form.ofText? (text : String) : Option Form :=
  (tokens? text.toList).bind ofTokens?

end SchemaCompiler.Json
