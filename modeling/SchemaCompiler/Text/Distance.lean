/-
**Edit distance.**

The least number of insertions, deletions and substitutions of one character that turn one list
of characters into another, computed row by row.
-/

namespace SchemaCompiler.Text

/-- One row of the distance table. The arguments are the character of the row, the entry to the
left, the columns still to fill and the row above, from the column to the left on. -/
def distanceRow (c : Char) : Nat → List Char → List Nat → List Nat
  | left, d :: columns, diagonal :: above :: row =>
    let entry := min (min (left + 1) (above + 1)) (diagonal + if c = d then 0 else 1)
    entry :: distanceRow c entry columns (above :: row)
  | _, _, _ => []

/-- The row for one more character of the source. -/
def nextDistanceRow (target : List Char) (row : List Nat) (c : Char) : List Nat :=
  let first := row.headD 0 + 1
  first :: distanceRow c first target row

/-- The edit distance of two lists of characters. -/
def editDistance (source target : List Char) : Nat :=
  (source.foldl (nextDistanceRow target) (List.range (target.length + 1))).getLastD 0

example : editDistance "kitten".toList "sitting".toList = 3 := by decide
example : editDistance "".toList "ab".toList = 2 := by decide

end SchemaCompiler.Text
