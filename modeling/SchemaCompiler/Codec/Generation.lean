/-
**Outcomes as JSON.**
-/

import SchemaCompiler.Codec.Schema
import SchemaCompiler.Generation.Execution
import SchemaCompiler.Generation.Outcome

namespace SchemaCompiler

open Decode (required nullable record)

namespace GeneratedSql

/-- An outcome of generation. -/
def decode : Decoder GeneratedSql :=
  record "GeneratedSql" <|
    GeneratedSql.mk <$> required "sql" Decode.text <*> required "dialect" Dialect.decode
      <*> required "warnings" (Decode.list Decode.text)
      <*> required "errors" (Decode.list Decode.text)

/-- The object of an outcome. -/
def encode (g : GeneratedSql) : Json :=
  .object
    [("sql", .string g.sql), ("dialect", g.dialect.encode), ("warnings", .texts g.warnings),
      ("errors", .texts g.errors)]

end GeneratedSql

namespace ExecutionResult

/-- A result of execution. -/
def decode : Decoder ExecutionResult :=
  record "ExecutionResult" <|
    ExecutionResult.mk <$> required "success" Decode.bool
      <*> required "rows" (Decode.list decodeRow) <*> required "rowCount" Decode.count
      <*> required "elapsedMs" Decode.word64 <*> nullable "error" Decode.text

/-- The object of a result. -/
def encode (r : ExecutionResult) : Json :=
  .object
    [("success", .bool r.success), ("rows", Encode.list encodeRow r.rows),
      ("rowCount", Encode.word64 r.rowCount), ("elapsedMs", Encode.word64 r.elapsedMs),
      ("error", .optionalText r.error)]

end ExecutionResult

end SchemaCompiler
