/-
**The table of types.**

A row for each type with its category and, for each dialect, whether the type is supported or which
type takes its place.
-/

import SchemaCompiler.Support

namespace SchemaCompiler.CommandLine

/-- A text with blanks after it up to a width. -/
def padded (width : Nat) (text : String) : String :=
  text ++ String.ofList (List.replicate (width - text.length) ' ')

/-- The headings of the columns. -/
def typeHeadings (dialects : List Dialect) : List String :=
  "TYPE" :: "CATEGORY" :: dialects.map fun d => Text.upper d.name

/-- The widths of the columns. -/
def typeWidths (dialects : List Dialect) : List Nat :=
  match typeHeadings dialects with
  | [] => []
  | _ :: headings => 11 :: headings.map fun heading => max heading.length 8

/-- What the table says about a type in a dialect. -/
def supportText (t : DataType) (d : Dialect) : String :=
  if d.supports t then "yes" else "-> " ++ (d.substitute t).name

/-- A row of the table. -/
def typeRow (dialects : List Dialect) (cells : List String) : String :=
  " │ ".intercalate (List.zipWith padded (typeWidths dialects) cells)

/-- The line below the headings. -/
def typeRule (dialects : List Dialect) : String :=
  "─┼─".intercalate <|
    (typeWidths dialects).map fun width => String.ofList (List.replicate width '─')

/-- The lines of the table. -/
def typeTable (dialects : List Dialect) : List String :=
  typeRow dialects (typeHeadings dialects) :: typeRule dialects ::
    DataType.all.map fun t =>
      typeRow dialects (t.name :: t.category.name :: dialects.map (supportText t))

end SchemaCompiler.CommandLine
