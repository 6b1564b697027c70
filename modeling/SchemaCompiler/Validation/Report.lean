/-
**Reports.**

A check reports errors, which block generation, and warnings, which only advise. A warning is
reported once, where it came up first.
-/

namespace SchemaCompiler

/-- The messages of a check. -/
structure Report where
  errors : List String
  warnings : List String
  deriving DecidableEq

namespace Report

/-- Whether nothing blocks generation. -/
def isValid (r : Report) : Bool := r.errors.isEmpty

/-- The report of errors and warnings, with every warning once. -/
def of (errors warnings : List String) : Report :=
  ⟨errors, warnings.eraseDups⟩

end Report

/-- The items with a key other than the empty one that an earlier item has too, given the keys of
the items in front. -/
def repeatedAfter {α : Type} (key : α → String) : List String → List α → List α
  | _, [] => []
  | seen, item :: rest =>
    let others := repeatedAfter key (key item :: seen) rest
    if key item ≠ "" ∧ key item ∈ seen then item :: others else others

/-- The items with a key other than the empty one that an earlier item has too. -/
def repeated {α : Type} (key : α → String) (items : List α) : List α :=
  repeatedAfter key [] items

end SchemaCompiler
