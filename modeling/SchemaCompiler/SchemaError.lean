/-
**Errors of names and queries.**

What can go wrong when names are looked up or a statement is assembled, with the message of each.
-/

namespace SchemaCompiler

/-- A name that does not resolve, or a query or setting that cannot be used. -/
inductive SchemaError where
  | unknownTable (table : String)
  | unknownColumn (table column : String)
  | invalidQuery (reason : String)
  | unknownDialect (name : String)
  | configuration (reason : String)
  deriving DecidableEq

/-- The message of an error. -/
def SchemaError.message : SchemaError → String
  | .unknownTable table => "Unknown table: '" ++ table ++ "'"
  | .unknownColumn table column =>
    "Unknown column '" ++ column ++ "' in table '" ++ table ++ "'"
  | .invalidQuery reason => "Invalid query: " ++ reason
  | .unknownDialect name =>
    "Unknown dialect: '" ++ name ++ "'. Expected: mysql, postgres, or sqlite"
  | .configuration reason => "Configuration error: " ++ reason

end SchemaCompiler
