/-
Module: SqlMapper.Document.Export
Purpose: Documents and the findings of a scan as JSON values.
Main exports: Node.toJson, Document.toJson, UnsupportedTag.toJson, InvalidDirective.toJson
-/
import SqlMapper.Document.Basic
import SqlMapper.Json.Value

namespace SqlMapper.Document

open SqlMapper.Json

/-!
A node is an object of one field, which is named after what the node is. The
fields of an object stand in a fixed order, so that a printed document can be
compared line by line.
-/

mutual

/-- A node as a JSON value. -/
def Node.toJson : Node → Value
  | .text characters => .object [("text", .string characters)]
  | .ifTest test children =>
      .object [("if", .object [("test", .string test), ("children", .array (nodesToJson children))])]
  | .choose whens otherwise =>
      .object [("choose", .object
        [("whens", .array (branchesToJson whens)), ("otherwise", .array (nodesToJson otherwise))])]
  | .isNotNull property children =>
      .object [("is_not_null", .object
        [("property", .string property), ("children", .array (nodesToJson children))])]
  | .inclusion refid => .object [("include", .object [("refid", .string refid)])]
  | .whereBlock children =>
      .object [("where", .object [("children", .array (nodesToJson children))])]
  | .unsupported tag => .object [("unsupported", .object [("tag", .string tag)])]
  | .invalid tag error =>
      .object [("invalid", .object [("tag", .string tag), ("error", .string error.message)])]

/-- Nodes as JSON values. -/
def nodesToJson : List Node → List Value
  | [] => []
  | node :: rest => node.toJson :: nodesToJson rest

/-- The branches of a choice as JSON values. -/
def branchesToJson : List (Branch Node) → List Value
  | [] => []
  | ⟨test, children⟩ :: rest =>
      .object [("test", .string test), ("children", .array (nodesToJson children))]
        :: branchesToJson rest

end

/-- A statement as a JSON value. -/
def Statement.toJson (s : Statement) : Value :=
  .object [("kind", .string s.kind), ("id", .string s.id), ("body", .array (nodesToJson s.body))]

/-- A document as a JSON value. -/
def toJson (d : SqlMapper.Document) : Value :=
  .object [("statements", .array (d.statements.map Statement.toJson))]

end SqlMapper.Document

namespace SqlMapper

open SqlMapper.Json

/-- A tag that is no directive as a JSON value. -/
def UnsupportedTag.toJson (found : UnsupportedTag) : Value :=
  .object [("statement", .string found.statement), ("tag", .string found.tag)]

/-- An invalid directive as a JSON value. -/
def InvalidDirective.toJson (found : InvalidDirective) : Value :=
  .object [("statement", .string found.statement), ("tag", .string found.tag),
    ("error", .string found.error.message)]

end SqlMapper
