/-
Module: SqlMapper.Proofs.PrintedExpressions
Purpose: Written test expressions, read back.
Main exports: Expression.layout, Expression.parse_text, text_read_back
-/
import SqlMapper.Condition.Evaluation
import SqlMapper.Proofs.ExpressionForm

namespace SqlMapper.Condition

open SqlMapper.Text SqlMapper.Parameter

/-!
A test expression is written with its literal between single quotes, and nothing
is escaped. Reading takes one quote from each end and no more, so the literal
comes back whatever is in it, quotes and blanks at its ends included. What was
read from a text can be written, and means the same.
-/

namespace Expression

/-- How an expression is laid out when it is written. -/
def layout (x : Expression) : Layout :=
  ⟨[], x.property.toList, [' '], x.operator.text.toList, [' '],
    '\'' :: (x.literal.toList ++ ['\'']), []⟩

theorem isWord_operator (op : Operator) : IsWord op.text.toList := by
  cases op <;> decide

theorem isRun_space : IsRun [' '] := isRun_singleton (by decide)

/-- A text between quotes stands for itself. -/
theorem denotes_enclosed (literal : List Char) :
    Denotes ('\'' :: (literal ++ ['\''])) literal := by
  have quote : isQuote '\'' = true := by decide
  exact .quoted (.inl ⟨'\'', _, quote, rfl⟩) (.quoted quote) (.quoted quote)

theorem isTrimmed_enclosed (literal : List Char) : IsTrimmed ('\'' :: (literal ++ ['\''])) := by
  have letter : isBlank '\'' = false := by decide
  refine ⟨letter, ?_⟩
  rw [← List.cons_append, List.getLast?_concat]
  exact letter

theorem covers_text {x : Expression} (named : IsWord x.property.toList) :
    x.layout.Covers x.text.toList where
  whole := by
    rw [text, String.toList_ofList, Layout.text, Layout.behindProperty, Layout.behindOperator]
    simp [layout]
  indent := rfl
  property := named
  gap := isRun_space
  operator := isWord_operator x.operator
  secondGap := isRun_space
  nonempty := List.cons_ne_nil _ _
  trimmed := isTrimmed_enclosed x.literal.toList
  trail := rfl

/-- A written expression is read back. -/
theorem parse_text {x : Expression} (named : IsWord x.property.toList) : parse x.text = .ok x :=
  parse_eq_ok_iff.mpr ⟨x.layout, covers_text named, rfl, rfl, denotes_enclosed x.literal.toList⟩

/-- The property of an expression that was read is a word. -/
theorem isWord_property {text : String} {x : Expression} (read : parse text = .ok x) :
    IsWord x.property.toList := by
  obtain ⟨l, covers, property, -, -⟩ := parse_eq_ok_iff.mp read
  exact property ▸ covers.property

end Expression

theorem test_of_parse {text : String} {x : Expression} (read : Expression.parse text = .ok x)
    (bag : Bag) : test text bag = x.evaluate bag := by
  rw [test, read]

/-- Writing a test expression and reading it back gives the same expression, for
every literal. What was read from any text can be written and read back, and the
two texts have the same outcome for every bag. -/
theorem text_read_back :
    (∀ x : Expression, IsWord x.property.toList → Expression.parse x.text = .ok x)
      ∧ ∀ (text : String) (x : Expression), Expression.parse text = .ok x →
        IsWord x.property.toList ∧ Expression.parse x.text = .ok x
          ∧ ∀ bag : Bag, test text bag = test x.text bag := by
  refine ⟨fun x named => Expression.parse_text named, ?_⟩
  intro text x read
  have named := Expression.isWord_property read
  have again := Expression.parse_text named
  refine ⟨named, again, ?_⟩
  intro bag
  rw [test_of_parse read, test_of_parse again]

/-- The literal is a quote, a blank and a quote of the other kind; it is read from a
text with other quotes around it and other blanks between the parts. -/
theorem text_read_back_quoted :
    let x : Expression := ⟨"name", .equal, "\" '"⟩
    Expression.parse x.text = .ok x
      ∧ ∀ bag : Bag, test "\tname  == \"\" '' " bag = test x.text bag := by
  intro x
  have named : IsWord x.property.toList := by decide
  have read : Expression.parse "\tname  == \"\" '' " = .ok x := by rfl
  exact ⟨text_read_back.1 x named, (text_read_back.2 _ x read).2.2⟩

end SqlMapper.Condition
