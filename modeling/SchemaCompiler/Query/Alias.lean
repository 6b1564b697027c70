/-
**Names of output columns.**

An alias that was asked for always stands. Selected columns that would come out under the same
name get an alias made from table and column, and so does a column whose name an alias has taken.
Aggregates always get one.
-/

import SchemaCompiler.Query.Basic
import SchemaCompiler.Text.Case

namespace SchemaCompiler

namespace SelectedColumn

/-- The alias made from the function, the table and the column. -/
def autoAlias (c : SelectedColumn) : String :=
  match c.aggregate.function? with
  | some function => Text.lower function ++ "_" ++ c.table ++ "_" ++ c.column
  | none => c.table ++ "_" ++ c.column

/-- The name under which a column comes out without an alias. -/
def naturalName (c : SelectedColumn) : Aggregate × String :=
  (c.aggregate, Text.lower c.column)

end SelectedColumn

namespace Query

/-- How many selected columns without an alias of their own come out under a name. -/
def nameCount (q : Query) (name : Aggregate × String) : Nat :=
  q.columns.countP fun c => c.explicitAlias?.isNone && c.naturalName == name

/-- The aliases that were asked for, in lower case. -/
def takenNames (q : Query) : List String :=
  (q.columns.filterMap (·.explicitAlias?)).map Text.lower

/-- Whether a column without an alias of its own needs one to be told apart. -/
def collides (q : Query) (c : SelectedColumn) : Bool :=
  (!c.aggregate.isPresent && q.takenNames.contains c.naturalName.2) ||
    1 < q.nameCount c.naturalName

/-- The alias of a selected column. -/
def aliasOf (q : Query) (c : SelectedColumn) : Option String :=
  match c.explicitAlias? with
  | some name => some name
  | none => if q.collides c || c.aggregate.isPresent then some c.autoAlias else none

/-- The alias of each selected column; none at all when aliases are left out. -/
def aliases (q : Query) (wanted : Bool) : List (Option String) :=
  q.columns.map fun c => if wanted then q.aliasOf c else none

end Query

end SchemaCompiler
