/-
**Relationships.**

A relationship says that the values of a source column occur in a target column, and what happens
when a target row is deleted or changed. Tables and columns are named by their ids.
-/

import SchemaCompiler.Text.Blank

namespace SchemaCompiler

/-- How many rows a relationship joins on each side. It describes only. -/
inductive Cardinality where
  | oneToOne
  | oneToMany
  | manyToMany
  deriving DecidableEq, Repr

namespace Cardinality

/-- Every cardinality. -/
def all : List Cardinality := [.oneToOne, .oneToMany, .manyToMany]

/-- The name of a cardinality. -/
def name : Cardinality → String
  | .oneToOne => "ONE_TO_ONE"
  | .oneToMany => "ONE_TO_MANY"
  | .manyToMany => "MANY_TO_MANY"

end Cardinality

/-- What happens to a source row when its target is deleted or changed. -/
inductive ReferentialAction where
  | cascade
  | restrict
  | setNull
  | setDefault
  | noAction
  deriving DecidableEq, Repr

namespace ReferentialAction

/-- Every action. -/
def all : List ReferentialAction := [.cascade, .restrict, .setNull, .setDefault, .noAction]

/-- The name of an action. -/
def name : ReferentialAction → String
  | .cascade => "CASCADE"
  | .restrict => "RESTRICT"
  | .setNull => "SET_NULL"
  | .setDefault => "SET_DEFAULT"
  | .noAction => "NO_ACTION"

/-- The SQL keywords of an action. -/
def sql : ReferentialAction → String
  | .cascade => "CASCADE"
  | .restrict => "RESTRICT"
  | .setNull => "SET NULL"
  | .setDefault => "SET DEFAULT"
  | .noAction => "NO ACTION"

end ReferentialAction

/-- A foreign-key relationship. -/
structure Relationship where
  id : String
  name : String := ""
  sourceTableId : String
  sourceColumnId : String
  targetTableId : String
  targetColumnId : String
  cardinality : Cardinality := .oneToMany
  onDelete : ReferentialAction := .noAction
  onUpdate : ReferentialAction := .noAction
  deriving DecidableEq

/-- The name of a relationship in messages: its id for want of a name. -/
def Relationship.displayName (r : Relationship) : String :=
  if Text.allBlank r.name then r.id else r.name

end SchemaCompiler
