/-
**Suggestions for misspelled names.**

The name that a user may have meant is the nearest one, by edit distance up to case, as long as it
is near enough for the length of what was written. Of names at the same distance the first counts.
-/

import SchemaCompiler.Text.Case
import SchemaCompiler.Text.Distance

namespace SchemaCompiler.Suggestion

/-- The greatest distance at which a name is near enough, by the size of the name in bytes. -/
def tolerance (size : Nat) : Nat :=
  if size ≤ 2 then 0 else if size ≤ 5 then 2 else 3

/-- The distance of two names up to case. -/
def distance (a b : String) : Nat :=
  Text.editDistance (Text.lower a).toList (Text.lower b).toList

/-- The first entry with the least number. -/
def least? {α : Type} : List (Nat × α) → Option (Nat × α)
  | [] => none
  | entry :: rest =>
    match least? rest with
    | some other => if other.1 < entry.1 then some other else some entry
    | none => some entry

/-- The name among the candidates that a user may have meant. -/
def suggest? (name : String) (candidates : List String) : Option String :=
  let distances := candidates.map fun candidate => (distance name candidate, candidate)
  (least? (distances.filter (·.1 ≤ tolerance name.utf8ByteSize))).map (·.2)

end SchemaCompiler.Suggestion
