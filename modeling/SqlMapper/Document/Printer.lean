/-
Module: SqlMapper.Document.Printer
Purpose: Documents as mapper texts.
Main exports: escapeText, escapeValue, printNode, Document.print
-/
import SqlMapper.Document.Basic

namespace SqlMapper.Document

/-!
Every statement stands on its own, without an element around it and without
blanks between two of them. A character that could be taken for markup, or that
a reader of XML may change, is written as a reference: in text these are the
ampersand, the angle brackets and the carriage return, in an attribute value
also both quotes, the tab and the line feed.
-/

/-- A character as it stands in text. -/
def escapeTextCharacter (c : Char) : List Char :=
  match c with
  | '&' => "&amp;".toList
  | '<' => "&lt;".toList
  | '>' => "&gt;".toList
  | '\r' => "&#13;".toList
  | c => [c]

/-- Characters as they stand in text. -/
def escapeText (cs : List Char) : List Char := cs.flatMap escapeTextCharacter

/-- A character as it stands in an attribute value. -/
def escapeValueCharacter (c : Char) : List Char :=
  match c with
  | '"' => "&quot;".toList
  | '\'' => "&apos;".toList
  | '\t' => "&#9;".toList
  | '\n' => "&#10;".toList
  | c => escapeTextCharacter c

/-- Characters as they stand in an attribute value. -/
def escapeValue (cs : List Char) : List Char := cs.flatMap escapeValueCharacter

/-- A tag with one attribute and its brackets. -/
def startTag (name key value : String) : List Char :=
  '<' :: (name.toList ++ ' ' :: (key.toList ++ '=' :: '"' ::
    (escapeValue value.toList ++ ['"', '>'])))

/-- An element without attributes around a text. -/
def enclose (name : String) (content : List Char) : List Char :=
  '<' :: (name.toList ++ '>' :: (content ++ '<' :: '/' :: (name.toList ++ ['>'])))

/-- An element with one attribute around a text. -/
def encloseWith (name key value : String) (content : List Char) : List Char :=
  startTag name key value ++ content ++ '<' :: '/' :: (name.toList ++ ['>'])

mutual

/-- A node as it is written. An invalid directive has no valid text and is
written as an empty element. -/
def printNode : Node → List Char
  | .text characters => escapeText characters.toList
  | .ifTest test children => encloseWith Directive.ifTest.name "test" test (printNodes children)
  | .choose whens otherwise =>
      enclose Directive.choose.name
        (printBranches whens ++ enclose Directive.otherwise.name (printNodes otherwise))
  | .isNotNull property children =>
      encloseWith Directive.isNotNull.name "property" property (printNodes children)
  | .inclusion refid => encloseWith Directive.inclusion.name "refid" refid []
  | .whereBlock children => enclose Directive.whereBlock.name (printNodes children)
  | .unsupported tag => '<' :: (tag.toList ++ ['/', '>'])
  | .invalid tag _ => '<' :: (tag.toList ++ ['/', '>'])

/-- Nodes as they are written. -/
def printNodes : List Node → List Char
  | [] => []
  | node :: rest => printNode node ++ printNodes rest

/-- The branches of a choice as they are written. -/
def printBranches : List (Branch Node) → List Char
  | [] => []
  | ⟨test, children⟩ :: rest =>
      encloseWith Directive.when.name "test" test (printNodes children) ++ printBranches rest

end

/-- A statement as it is written. -/
def printStatement (s : Statement) : List Char :=
  encloseWith s.kind "id" s.id (printNodes s.body)

/-- A document as a mapper text. -/
def print (d : SqlMapper.Document) : String :=
  String.ofList (d.statements.flatMap printStatement)

end SqlMapper.Document
