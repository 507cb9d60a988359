/-
Module: SqlMapper.Query.Clause
Purpose: The clause that a block of conditions turns into.
Main exports: connectors, stripConnector, clause?, whereClause?
-/
import SqlMapper.Text.Words

namespace SqlMapper.Query

open SqlMapper.Text

/-!
Each condition of a block is written with the connector that joins it to the one
before. Whichever condition comes first, its connector is dropped; a block
without conditions leaves nothing behind.
-/

/-- The connectors of conditions, each with the space that ends it. -/
def connectors : List (List Char) := ["AND ".toList, "OR ".toList]

/-- Whether a text starts with a connector, in any case of its letters. -/
def startsWithConnector (cs connector : List Char) : Bool :=
  (cs.take connector.length).map Char.toUpper == connector

/-- The text without one connector at its start. -/
def stripConnector (cs : List Char) : List Char :=
  match connectors.find? (startsWithConnector cs) with
  | some connector => cs.drop connector.length
  | none => cs

/-- The clause of a block with some content, flattened; none if the content is blank. -/
def clause? (content : List Char) : Option (List Char) :=
  let text := stripConnector (flattenChars content)
  if text.isEmpty then none else some ("WHERE ".toList ++ text)

/-- The clause of a block with some content; none if the content is blank. -/
def whereClause? (content : String) : Option String :=
  (clause? content.toList).map String.ofList

end SqlMapper.Query
