/-
**Results of execution.**

Generated text is executed elsewhere; this is the shape in which results are handed back.
-/

import SchemaCompiler.Schema.Table

namespace SchemaCompiler

/-- The result of executing generated text. -/
structure ExecutionResult where
  success : Bool
  rows : List Row
  rowCount : UInt64
  elapsedMs : UInt64
  error : Option String

namespace ExecutionResult

/-- A result with rows. -/
def succeeded (rows : List Row) (elapsedMs : UInt64) : ExecutionResult :=
  ⟨true, rows, rows.length.toUInt64, elapsedMs, none⟩

/-- A result with an error. -/
def failed (error : String) (elapsedMs : UInt64) : ExecutionResult :=
  ⟨false, [], 0, elapsedMs, some error⟩

end ExecutionResult

end SchemaCompiler
