/-
Module: SqlMapper.Condition.Expression
Purpose: Test expressions `property operator literal`: reading and writing them.
Main exports: ConditionError, Expression, Expression.parse, Expression.text
-/
import SqlMapper.Condition.Operator
import SqlMapper.Text.Blank

namespace SqlMapper.Condition

open SqlMapper.Text

/-!
A test expression has three parts with blanks between them. The literal runs to
the end of the expression. It may be quoted at either end with either quote;
one quote is taken from each end that has one, and only a literal with a quote
at one end may hold blanks. An expression that falls into three parts but names
no operator is told apart from one that does not.
-/

/-- Why a test expression cannot be read or evaluated. -/
inductive ConditionError where
  | malformed (expression : String)
  | unknownOperator (operator : String) (expression : String)
  | nonNumericLiteral (property : String) (literal : String)
deriving Repr, Inhabited, DecidableEq

/-- The message for a test expression that cannot be read or evaluated. -/
def ConditionError.message : ConditionError → String
  | .malformed expression =>
      s!"Malformed test expression '{expression}': expected `property operator literal`"
  | .unknownOperator operator expression =>
      s!"Unknown comparison operator '{operator}' in test expression '{expression}'"
  | .nonNumericLiteral property literal =>
      s!"Property '{property}' holds a number but '{literal}' is not one"

/-- A test expression; the literal stands without its quotes. -/
structure Expression where
  property : String
  operator : Operator
  literal : String
deriving Repr, Inhabited, DecidableEq

/-- A quote of either kind. -/
def isQuote (c : Char) : Bool := c == '"' || c == '\''

/-- The text after one quote, if it starts with one. -/
def stripOpening : List Char → Option (List Char)
  | c :: rest => if isQuote c then some rest else none
  | [] => none

/-- The text before one quote, if it ends with one. -/
def stripClosing (cs : List Char) : Option (List Char) :=
  (stripOpening cs.reverse).map List.reverse

/-- The text without one quote at its start and without one quote at the end of
what remains; nothing if there is a quote at neither end. -/
def unquote? (cs : List Char) : Option (List Char) :=
  match stripOpening cs with
  | some inner => some ((stripClosing inner).getD inner)
  | none => stripClosing cs

/-- The first part of a text and what follows it, provided a blank follows it. -/
def cutToken? (cs : List Char) : Option (List Char × List Char) :=
  let cs := trimStart cs
  match cs.dropWhile (! isBlank ·) with
  | [] => none
  | rest => some (cs.takeWhile (! isBlank ·), rest)

/-- The literal that a text without blanks at its ends stands for. -/
def literal? (cs : List Char) : Option (List Char) :=
  if cs.isEmpty then none
  else match unquote? cs with
    | some inner => some inner
    | none => if cs.any isBlank then none else some cs

/-- The three parts of an expression: property, operator and literal. -/
def parts? (cs : List Char) : Option (List Char × List Char × List Char) :=
  match cutToken? cs with
  | none => none
  | some (property, rest) =>
      match cutToken? rest with
      | none => none
      | some (operator, rest) =>
          (literal? (trim rest)).map fun literal => (property, operator, literal)

namespace Expression

/-- Read a test expression. -/
def parse (text : String) : Except ConditionError Expression :=
  match parts? text.toList with
  | none => .error (.malformed text)
  | some (property, operator, literal) =>
      match Operator.read? (String.ofList operator) with
      | none => .error (.unknownOperator (String.ofList operator) text)
      | some operator => .ok ⟨String.ofList property, operator, String.ofList literal⟩

/-- Write a test expression, the literal between single quotes. -/
def text (e : Expression) : String :=
  String.ofList
    (e.property.toList ++ ' ' :: (e.operator.text.toList ++ ' ' :: '\'' ::
      (e.literal.toList ++ ['\''])))

end Expression

end SqlMapper.Condition
