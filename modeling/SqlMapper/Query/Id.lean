/-
Module: SqlMapper.Query.Id
Purpose: Names of mapper files and ids of queries.
Main exports: isName, fileName, QueryId, QueryId.parse, QueryId.text
-/
import SqlMapper.Query.Error
import SqlMapper.Text.Words

namespace SqlMapper.Query

open SqlMapper.Text

/-- Whether a text is a name: one or more ASCII letters and digits. -/
def isName (cs : List Char) : Bool := !cs.isEmpty && cs.all Char.isAlphanum

/-- The ending of the files that hold statements. -/
def fileEnding : String := ".xml"

/-- The name of the file that holds the statements of a base name. -/
def fileName (base : String) : String := base ++ fileEnding

/-- The id of a query: the base name of a file, and the id of a statement in it. -/
structure QueryId where
  file : String
  statement : String
deriving Repr, Inhabited, DecidableEq

namespace QueryId

/-- Read an id: two names with a dot between them. -/
def parse (id : String) : Except QueryError QueryId :=
  match cutAt? '.' id.toList with
  | some (file, statement) =>
      if isName file && isName statement then
        .ok ⟨String.ofList file, String.ofList statement⟩
      else .error (.invalidId id)
  | none => .error (.invalidId id)

/-- The id as it is written. -/
def text (id : QueryId) : String := id.file ++ "." ++ id.statement

/-- The name of the file in which the query is defined. -/
def fileName (id : QueryId) : String := Query.fileName id.file

end QueryId

end SqlMapper.Query
