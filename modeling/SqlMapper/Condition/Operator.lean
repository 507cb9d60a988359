/-
Module: SqlMapper.Condition.Operator
Purpose: The six comparison operators of test expressions.
Main exports: Operator, Operator.text, Operator.read?, Operator.holds
-/

namespace SqlMapper.Condition

/-- The comparison operators that a test expression may use. -/
inductive Operator where
  | equal
  | notEqual
  | lessThan
  | lessOrEqual
  | greaterThan
  | greaterOrEqual
deriving Repr, Inhabited, DecidableEq

namespace Operator

/-- All operators. -/
def all : List Operator :=
  [equal, notEqual, lessThan, lessOrEqual, greaterThan, greaterOrEqual]

/-- An operator as it is written. -/
def text : Operator → String
  | .equal => "=="
  | .notEqual => "!="
  | .lessThan => "<"
  | .lessOrEqual => "<="
  | .greaterThan => ">"
  | .greaterOrEqual => ">="

/-- The operator that a text names. -/
def read? (s : String) : Option Operator := all.find? fun op => op.text == s

/-- Whether an operator asks for the order of its sides. -/
def isOrdering : Operator → Bool
  | .equal | .notEqual => false
  | .lessThan | .lessOrEqual | .greaterThan | .greaterOrEqual => true

/-- Whether an operator holds between two sides with this order. Sides that
cannot be compared are different, and no other operator holds between them. -/
def holds : Operator → Option Ordering → Bool
  | .equal, order => order == some .eq
  | .notEqual, order => order != some .eq
  | .lessThan, order => order == some .lt
  | .lessOrEqual, order => order == some .lt || order == some .eq
  | .greaterThan, order => order == some .gt
  | .greaterOrEqual, order => order == some .gt || order == some .eq

/-- Reading what was written gives the operator back. -/
theorem read?_text (op : Operator) : read? op.text = some op := by
  cases op <;> decide

/-- Only the text of an operator is read as that operator. -/
theorem text_of_read? {s : String} {op : Operator} (h : read? s = some op) : op.text = s := by
  simpa using List.find?_some h

/-- A text is read as no operator exactly if it is the text of none. -/
theorem read?_eq_none_iff {s : String} : read? s = none ↔ ∀ op : Operator, op.text ≠ s := by
  constructor
  · rintro unnamed op rfl
    rw [read?_text] at unnamed
    cases unnamed
  · intro other
    cases named : read? s with
    | none => rfl
    | some op => exact absurd (text_of_read? named) (other op)

end Operator

end SqlMapper.Condition
