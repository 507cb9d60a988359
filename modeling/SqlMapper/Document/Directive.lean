/-
Module: SqlMapper.Document.Directive
Purpose: The directive elements of a mapper text and their names.
Main exports: Directive, Directive.name, Directive.ofName?
-/
import SqlMapper.Text.Words

namespace SqlMapper.Document

open SqlMapper.Text

/-- The elements with a meaning inside a statement. -/
inductive Directive where
  | ifTest
  | choose
  | when
  | otherwise
  | isNotNull
  | inclusion
  | whereBlock
deriving Repr, Inhabited, DecidableEq

namespace Directive

/-- All directives. -/
def all : List Directive := [ifTest, choose, when, otherwise, isNotNull, inclusion, whereBlock]

/-- The element name of a directive. -/
def name : Directive → String
  | .ifTest => "if"
  | .choose => "choose"
  | .when => "when"
  | .otherwise => "otherwise"
  | .isNotNull => "isnotnull"
  | .inclusion => "include"
  | .whereBlock => "where"

/-- The directive that an element name stands for, in any case of its letters. -/
def ofName? (s : String) : Option Directive := all.find? fun d => sameLetters d.name s

end Directive

end SqlMapper.Document
