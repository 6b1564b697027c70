/-
**Outcomes of generation.**

A generation yields SQL text, or errors and no text, and warnings in either case. A warning stands
once, where it came up first.
-/

import SchemaCompiler.SchemaError
import SchemaCompiler.Dialect
import SchemaCompiler.Validation.Report

namespace SchemaCompiler

/-- The outcome of a generation for a dialect. -/
structure GeneratedSql where
  sql : String := ""
  dialect : Dialect
  warnings : List String := []
  errors : List String := []
  deriving DecidableEq

namespace GeneratedSql

/-- Whether nothing went wrong. -/
def isOk (g : GeneratedSql) : Bool := g.errors.isEmpty

/-- The outcome with one more warning, unless it is there already. -/
def warn (message : String) (g : GeneratedSql) : GeneratedSql :=
  if g.warnings.contains message then g else { g with warnings := g.warnings ++ [message] }

/-- The outcome with one more error, and without text. -/
def fail (message : String) (g : GeneratedSql) : GeneratedSql :=
  { g with sql := "", errors := g.errors ++ [message] }

/-- The outcome for something that was checked: what the check reports when it found errors, and
otherwise the text, or the error in its place, with the warnings of both. -/
def ofChecked (d : Dialect) (report : Report) (text : Except SchemaError String)
    (warnings : List String) : GeneratedSql :=
  if !report.isValid then
    { dialect := d, warnings := report.warnings.eraseDups, errors := report.errors }
  else
    let warnings := (report.warnings ++ warnings).eraseDups
    match text with
    | .ok sql => { sql, dialect := d, warnings }
    | .error cause => { dialect := d, warnings, errors := [cause.message] }

/-- Several outcomes as one: their texts with blank lines between them, unless one of them has
errors. -/
def merge (d : Dialect) (outcomes : List GeneratedSql) : GeneratedSql :=
  let errors := outcomes.flatMap (·.errors)
  let texts := (outcomes.map (·.sql)).filter (· ≠ "")
  { sql := if errors.isEmpty then "\n\n".intercalate texts else "",
    dialect := d,
    warnings := (outcomes.flatMap (·.warnings)).eraseDups,
    errors }

end GeneratedSql

end SchemaCompiler
