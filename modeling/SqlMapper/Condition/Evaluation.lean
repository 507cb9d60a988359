/-
Module: SqlMapper.Condition.Evaluation
Purpose: The truth of a test expression for a parameter bag.
Main exports: compareText, compareDecimals?, Expression.evaluate, test
-/
import SqlMapper.Condition.Expression
import SqlMapper.Number.Numeral
import SqlMapper.Parameter.Value

namespace SqlMapper.Condition

open SqlMapper.Number SqlMapper.Parameter

/-!
The value of the property decides how it is compared. A value of decimal digits
alone is compared as a number, and then the literal has to be a number as well.
Any other value is compared as a text: only equality and inequality are
meaningful then, and the ordering operators do not hold. A missing value is
compared as the text `null`.
-/

/-- The order of two texts by their code points. -/
def compareText (a b : String) : Ordering :=
  if a < b then .lt else if a = b then .eq else .gt

/-- The order of two texts as numbers, if both denote one; the inner option is
empty when one of them denotes no point of the number line. -/
def compareDecimals? (left right : String) : Option (Option Ordering) :=
  match readBinary? Format.double left.toList, readBinary? Format.double right.toList with
  | some a, some b => some (a.compare? b)
  | _, _ => none

/-- The text of a missing value. -/
def missingText : String := "null"

/-- Whether an operator holds between a text and a literal. -/
def Operator.holdsForText (op : Operator) (value literal : String) : Bool :=
  !op.isOrdering && op.holds (some (compareText value literal))

/-- Whether an expression is true when its property has a value. -/
def Expression.evaluateAt (e : Expression) (value : Option String) :
    Except ConditionError Bool :=
  match value with
  | none => .ok (e.operator.holdsForText missingText e.literal)
  | some value =>
      if isDigits value.toList then
        match compareDecimals? value e.literal with
        | some order => .ok (e.operator.holds order)
        | none => .error (.nonNumericLiteral e.property e.literal)
      else .ok (e.operator.holdsForText value e.literal)

/-- Whether an expression is true for a parameter bag. -/
def Expression.evaluate (e : Expression) (bag : Bag) : Except ConditionError Bool :=
  e.evaluateAt (bag e.property)

/-- Read a test expression and evaluate it. -/
def test (text : String) (bag : Bag) : Except ConditionError Bool :=
  match Expression.parse text with
  | .error e => .error e
  | .ok e => e.evaluate bag

end SqlMapper.Condition
