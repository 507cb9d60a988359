/-
Module: SqlMapper.Document.Node
Purpose: The parts of a statement's body.
Main exports: Branch, Node, Node.tagName?, Node.walk, walkAll
-/
import SqlMapper.Document.Directive
import SqlMapper.Markup.Error

namespace SqlMapper.Document

open SqlMapper.Markup

/-- A branch of a choice: the test that selects it and what it holds. -/
structure Branch (α : Type) where
  test : String
  children : List α
deriving Repr, Inhabited, DecidableEq

/-- A part of a body: text, a directive, an element that is none, or a directive
that could not be built. -/
inductive Node where
  | text (characters : String)
  | ifTest (test : String) (children : List Node)
  | choose (whens : List (Branch Node)) (otherwise : List Node)
  | isNotNull (property : String) (children : List Node)
  | inclusion (refid : String)
  | whereBlock (children : List Node)
  | unsupported (tag : String)
  | invalid (tag : String) (error : MarkupError)
deriving Repr, Inhabited

/-- The tag of a node: a directive's own name, or the name as it is written of
an element that is no directive or not a valid one. -/
def Node.tagName? : Node → Option String
  | .text _ => none
  | .ifTest .. => some Directive.ifTest.name
  | .choose .. => some Directive.choose.name
  | .isNotNull .. => some Directive.isNotNull.name
  | .inclusion _ => some Directive.inclusion.name
  | .whereBlock _ => some Directive.whereBlock.name
  | .unsupported tag => some tag
  | .invalid tag _ => some tag

mutual

/-- A node and all nodes below it, each before what it holds; a choice holds its
branches and then its last resort. -/
def Node.walk : Node → List Node
  | .ifTest test children => .ifTest test children :: walkAll children
  | .choose whens otherwise =>
      .choose whens otherwise :: (walkBranches whens ++ walkAll otherwise)
  | .isNotNull property children => .isNotNull property children :: walkAll children
  | .whereBlock children => .whereBlock children :: walkAll children
  | .text characters => [.text characters]
  | .inclusion refid => [.inclusion refid]
  | .unsupported tag => [.unsupported tag]
  | .invalid tag error => [.invalid tag error]

/-- The nodes of a body and all nodes below them. -/
def walkAll : List Node → List Node
  | [] => []
  | node :: rest => node.walk ++ walkAll rest

/-- The nodes of the branches of a choice and all nodes below them. -/
def walkBranches : List (Branch Node) → List Node
  | [] => []
  | ⟨_, children⟩ :: rest => walkAll children ++ walkBranches rest

end

end SqlMapper.Document
