/-
Module: SqlMapper.Query.Error
Purpose: Everything that can go wrong between a query id and its SQL, and the message for each.
Main exports: QueryError, QueryError.message
-/
import SqlMapper.Condition.Expression
import SqlMapper.Files.Tree
import SqlMapper.Markup.Error

namespace SqlMapper.Query

open SqlMapper.Condition SqlMapper.Files SqlMapper.Markup

/-- Why a query cannot be rendered. -/
inductive QueryError where
  | rootNotSet
  | fileNotFound (path : String)
  | invalidId (id : String)
  | invalidFileName (name : String)
  | notDefined (id : String)
  | unsupportedTag (tag : String)
  | inclusionCycle (chain : List String)
  | unreadable (path : String) (cause : FileError)
  | markup (error : MarkupError)
  | condition (error : ConditionError)
deriving Repr, Inhabited, DecidableEq

/-- The message for a query that cannot be rendered. -/
def QueryError.message : QueryError → String
  | .rootNotSet =>
      "Mapper root directory is not configured. Call `configure` with the directory holding the mapper files before rendering"
  | .fileNotFound path => s!"Mapper file not found: {path}"
  | .invalidId id =>
      s!"Query id must look like <FileName>.<QueryId> (e.g. User.getOne), got '{id}'"
  | .invalidFileName name => s!"Mapper file name must be alphanumeric (e.g. User), got '{name}'"
  | .notDefined id => s!"Query '{id}' is not defined"
  | .unsupportedTag tag => s!"Unsupported tag name: {tag}"
  | .inclusionCycle chain =>
      let path := String.intercalate " -> " chain
      s!"Include cycle detected: {path}"
  | .unreadable path cause =>
      let reason := cause.message
      s!"Failed to read mapper file {path}: {reason}"
  | .markup error =>
      let reason := error.message
      s!"Invalid mapper markup: {reason}"
  | .condition error =>
      let reason := error.message
      s!"Invalid test expression: {reason}"

end SqlMapper.Query
