/-
**TOML values.**

A table remembers how it came to be, because that decides what may be added to it: a table with a
header, one that only the header of a table below it implies, one made by dotted keys, or one
written inline, to which nothing may be added.

* `within?` — the change of the table at a path.
-/

namespace SchemaCompiler

namespace Toml

/-- How a table came to be. -/
inductive Origin where
  | header
  | implied
  | dotted
  | inline
  deriving DecidableEq

end Toml

/-- A TOML value. Floating-point numbers, dates and times are kept as they are written, and an
array of tables is apart from an array of values. -/
inductive Toml where
  | string (value : String)
  | integer (value : Int)
  | float (text : String)
  | boolean (value : Bool)
  | dateTime (text : String)
  | array (items : List Toml)
  | tables (items : List (List (String × Toml)))
  | table (origin : Toml.Origin) (entries : List (String × Toml))
  deriving Inhabited

namespace Toml

/-- The entries of a table. -/
abbrev Entries := List (String × Toml)

/-- A change of a table, which may be refused. -/
abbrev Change := Origin → Entries → Option Entries

/-- The entries with the value of a key changed; a missing value is added. -/
def alter? (key : String) (change : Option Toml → Option Toml) : Entries → Option Entries
  | [] => (change none).map fun value => [(key, value)]
  | (other, value) :: rest =>
    if other = key then (change (some value)).map fun value => (key, value) :: rest
    else (alter? key change rest).map ((other, value) :: ·)

/-- The change of the last table of an array of tables, which has a header of its own. -/
def changeLast? (change : Change) : List Entries → Option (List Entries)
  | [] => none
  | [last] => (change .header last).map ([·])
  | first :: rest => (changeLast? change rest).map (first :: ·)

/-- The change of the table at a path, where missing tables on the way are made. Dotted keys do not
lead into tables with headers of their own. -/
def within? (dotted : Bool) : List String → Change → Change
  | [], change => change
  | key :: path, change => fun _ entries =>
    alter? key
      (fun
        | none =>
          let origin := if dotted then Origin.dotted else .implied
          (within? dotted path change origin []).map (.table origin)
        | some (.table origin children) =>
          if origin = .inline ∨ (dotted ∧ origin = .header) then none
          else (within? dotted path change origin children).map (.table origin)
        | some (.tables items) =>
          (changeLast? (within? dotted path change) items).map .tables
        | some _ => none)
      entries

/-- A new entry of a table. -/
def add? (key : String) (value : Toml) : Entries → Option Entries :=
  alter? key fun
    | none => some value
    | some _ => none

/-- A new entry of a table, under a path of dotted keys. Dotted keys add only to tables that they
have made, and plain keys to no such table. -/
def addAt? (path : List String) (key : String) (value : Toml) : Change :=
  within? true path fun origin entries =>
    if (origin = .dotted) ↔ path = [] then none else add? key value entries

/-- The header of a table: it is new, or headers of tables below it have implied it. -/
def openTable? (key : String) : Entries → Option Entries :=
  alter? key fun
    | none => some (.table .header [])
    | some (.table .implied children) => some (.table .header children)
    | some _ => none

/-- The header of one more table of an array of tables. -/
def openArrayTable? (key : String) : Entries → Option Entries :=
  alter? key fun
    | none => some (.tables [[]])
    | some (.tables items) => some (.tables (items ++ [[]]))
    | some _ => none

end Toml

end SchemaCompiler
