/-
Module: SqlMapper.Proofs.TestOutcome
Purpose: When a test expression fails for a parameter bag, and with which error.
Main exports: evaluateAt_eq_error_iff, test_eq_error_iff, parse_error_cases
-/
import SqlMapper.Condition.Evaluation
import SqlMapper.Proofs.NumberText

namespace SqlMapper.Condition

open SqlMapper.Number SqlMapper.Parameter

/-!
A test fails if it cannot be read, or if its property holds digits and its
literal is not a number. The digits of the property never stand in the way: they
are always a number themselves.
-/

/-! ### Errors of tests -/

/-- A text of digits alone cannot be compared with a literal only because the
literal is not a number. -/
theorem compareDecimals?_eq_none_iff {value literal : String} (h : isDigits value.toList = true) :
    compareDecimals? value literal = none ↔ readBinary? Format.double literal.toList = none := by
  simp only [compareDecimals?, readBinary?_of_isDigits Format.double h]
  cases readBinary? Format.double literal.toList <;> simp

/-- Evaluating an expression fails only for a value of digits and a literal that
is not a number. -/
theorem evaluateAt_eq_error_iff {x : Expression} {value? : Option String} {e : ConditionError} :
    x.evaluateAt value? = .error e
      ↔ ∃ value, value? = some value ∧ isDigits value.toList = true
        ∧ readBinary? Format.double x.literal.toList = none
        ∧ e = .nonNumericLiteral x.property x.literal := by
  cases value? with
  | none => simp [Expression.evaluateAt]
  | some value =>
    simp only [Expression.evaluateAt, Option.some.injEq, exists_eq_left']
    by_cases hdigits : isDigits value.toList = true
    · rw [if_pos hdigits, ← compareDecimals?_eq_none_iff hdigits]
      cases compareDecimals? value x.literal with
      | none => simp [hdigits, eq_comm]
      | some order => simp
    · simp [hdigits]

/-- A test fails if it cannot be read, or if its evaluation does. -/
theorem test_eq_error_iff {text : String} {bag : Bag} {e : ConditionError} :
    test text bag = .error e
      ↔ Expression.parse text = .error e
        ∨ ∃ x value, Expression.parse text = .ok x ∧ bag x.property = some value
          ∧ isDigits value.toList = true
          ∧ readBinary? Format.double x.literal.toList = none
          ∧ e = .nonNumericLiteral x.property x.literal := by
  unfold test
  cases Expression.parse text with
  | error other => simp
  | ok x => simp [Expression.evaluate, evaluateAt_eq_error_iff]

/-- A text that cannot be read as a test is malformed or names no operator. -/
theorem parse_error_cases {text : String} {e : ConditionError}
    (h : Expression.parse text = .error e) :
    e = .malformed text ∨ ∃ operator, e = .unknownOperator operator text := by
  unfold Expression.parse at h
  split at h
  · cases h
    exact .inl rfl
  · split at h
    · cases h
      exact .inr ⟨_, rfl⟩
    · cases h

end SqlMapper.Condition
