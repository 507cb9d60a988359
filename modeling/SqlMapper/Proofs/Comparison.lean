/-
Module: SqlMapper.Proofs.Comparison
Purpose: How the outcomes of the six operators hang together.
Main exports: Binary.compare?_eq_none_iff, TextLaws, NumberLaws, numberLaws_holds,
  operators_cohere
-/
import Mathlib.Tactic.Common
import SqlMapper.Parameter.Record
import SqlMapper.Proofs.NumberText
import SqlMapper.Proofs.PrintedExpressions
import SqlMapper.Proofs.TestOutcome

namespace SqlMapper.Number.Binary

variable {f : Format}

theorem position?_eq_none_iff {x : Binary f} : x.position? = none ↔ x = .nan := by
  cases x <;> simp [position?]

/-- Two numbers are ordered unless one of them is no number. -/
theorem compare?_eq_none_iff {a b : Binary f} : a.compare? b = none ↔ a = .nan ∨ b = .nan := by
  rw [← position?_eq_none_iff, ← position?_eq_none_iff, compare?]
  cases a.position? <;> cases b.position? <;> simp

end SqlMapper.Number.Binary

namespace SqlMapper.Condition

open SqlMapper.Number SqlMapper.Parameter SqlMapper.Text

/-!
The value of a property decides once for all six operators how it is compared, and
so whether all of them fail. Where they do not fail, each says of the same order of
the two sides whether it is the one it stands for; so complementary branches can be
written with complementary operators, except that nothing but inequality holds
where there is no order.
-/

/-- The bag has digits and nothing else under the name. -/
def HoldsDigits (bag : Bag) (name : String) : Prop :=
  ∃ value, bag name = some value ∧ isDigits value.toList = true

/-- How outcomes hang together where texts are compared. -/
structure TextLaws (holds : Operator → Bool) : Prop where
  notEqual : holds .notEqual = !holds .equal
  unordered : ∀ op : Operator, op.isOrdering = true → holds op = false

/-- How outcomes hang together where numbers are compared, be they comparable or not. -/
structure NumberLaws (comparable : Prop) (holds : Operator → Bool) : Prop where
  notEqual : holds .notEqual = !holds .equal
  lessOrEqual : holds .lessOrEqual = (holds .lessThan || holds .equal)
  greaterOrEqual : holds .greaterOrEqual = (holds .greaterThan || holds .equal)
  exclusive : ¬ (holds .lessThan = true ∧ holds .greaterThan = true)
  oneOfThree : comparable →
    ∃! op, op ∈ [Operator.lessThan, .equal, .greaterThan] ∧ holds op = true
  incomparable : ¬ comparable → ∀ op : Operator, holds op = true ↔ op = .notEqual

theorem textLaws_holdsForText (value literal : String) :
    TextLaws fun op => op.holdsForText value literal where
  notEqual := by
    simp [Operator.holdsForText, Operator.isOrdering, Operator.holds, bne]
  unordered := by
    intro op ordering
    simp [Operator.holdsForText, ordering]

/-- The operator that stands for an order of the two sides. -/
def Operator.ofOrdering : Ordering → Operator
  | .lt => .lessThan
  | .eq => .equal
  | .gt => .greaterThan

theorem numberLaws_holds (order : Option Ordering) :
    NumberLaws (order ≠ none) fun op => op.holds order where
  notEqual := rfl
  lessOrEqual := rfl
  greaterOrEqual := rfl
  exclusive := by
    rintro ⟨less, greater⟩
    simp only [Operator.holds, beq_iff_eq] at less greater
    rw [less] at greater
    cases greater
  oneOfThree := by
    intro comparable
    obtain ⟨o, rfl⟩ := Option.ne_none_iff_exists'.mp comparable
    refine ⟨.ofOrdering o, ⟨?_, ?_⟩, ?_⟩
    · cases o <;> decide
    · cases o <;> rfl
    · rintro op ⟨member, holds⟩
      simp only [List.mem_cons, List.not_mem_nil, or_false] at member
      rcases member with rfl | rfl | rfl <;> simp only [Operator.holds, beq_iff_eq] at holds <;>
        cases holds <;> rfl
  incomparable := by
    intro none op
    obtain rfl : order = .none := not_not.mp none
    cases op <;> decide

/-! ### Outcomes -/

section Outcomes

variable {property literal value : String} {bag : Bag}

theorem evaluate_of_not_holdsDigits (h : ¬ HoldsDigits bag property) (literal : String) :
    ∃ text, ∀ op : Operator,
      Expression.evaluate ⟨property, op, literal⟩ bag = .ok (op.holdsForText text literal) := by
  cases found : bag property with
  | none =>
    refine ⟨missingText, fun op => ?_⟩
    rw [Expression.evaluate, found]
    rfl
  | some value =>
    have noDigits : ¬ isDigits value.toList = true := fun digits => h ⟨value, found, digits⟩
    refine ⟨value, fun op => ?_⟩
    rw [Expression.evaluate, found, Expression.evaluateAt, if_neg noDigits]

/-- Digits and a number have an order, unless the literal is the word that is no
number; all operators speak of that order. -/
theorem evaluate_of_number (digits : HoldsDigits bag property)
    (number : IsNumberText literal.toList) :
    ∃ order, (order = none ↔ IsNanText literal.toList) ∧ ∀ op : Operator,
      Expression.evaluate ⟨property, op, literal⟩ bag = .ok (op.holds order) := by
  obtain ⟨value, found, all⟩ := digits
  obtain ⟨right, read⟩ := (exists_readBinary?_iff (f := Format.double)).mpr number
  have left := readBinary?_of_isDigits Format.double all
  refine ⟨(Numeral.value false ⟨digitsValue value.toList, value.toList.length, 0⟩).compare? right,
    ?_, ?_⟩
  · rw [Binary.compare?_eq_none_iff, ← readBinary?_eq_nan_iff (f := Format.double), read,
      Option.some.injEq]
    exact or_iff_right (Numeral.value_ne_nan false _)
  · intro op
    rw [Expression.evaluate, found, Expression.evaluateAt, if_pos all, compareDecimals?, left, read]

theorem evaluate_of_not_number (digits : HoldsDigits bag property)
    (number : ¬ IsNumberText literal.toList) (op : Operator) :
    Expression.evaluate ⟨property, op, literal⟩ bag
      = .error (.nonNumericLiteral property literal) := by
  obtain ⟨value, found, all⟩ := digits
  exact evaluateAt_eq_error_iff.mpr
    ⟨value, found, all, readBinary?_eq_none_iff.mpr number, rfl⟩

end Outcomes

/-- A missing value is compared as the text `null` is. -/
theorem evaluate_of_missing {bag other : Bag} {property : String} (missing : bag property = none)
    (null : other property = some "null") (op : Operator) (literal : String) :
    Expression.evaluate ⟨property, op, literal⟩ bag
      = Expression.evaluate ⟨property, op, literal⟩ other := by
  rw [Expression.evaluate, Expression.evaluate, missing, null]
  rfl

/-- The outcomes of the six operators for one property, one literal and one bag.
Either all of them fail in the same way, for a value of digits and a literal that
is no number; or none fails, and they hang together as comparisons of texts do, or
of numbers. A missing value, or null, has the outcomes of the text `null`. All of
this holds of tests as they are written, too. -/
theorem operators_cohere (property literal : String) (bag : Bag) :
    let outcome (op : Operator) : Except ConditionError Bool :=
      Expression.evaluate ⟨property, op, literal⟩ bag
    ((∀ op, outcome op = .error (.nonNumericLiteral property literal))
          ∧ HoldsDigits bag property ∧ ¬ IsNumberText literal.toList
        ∨ ¬ (HoldsDigits bag property ∧ ¬ IsNumberText literal.toList)
          ∧ ∃ holds : Operator → Bool, (∀ op, outcome op = .ok (holds op))
            ∧ (¬ HoldsDigits bag property → TextLaws holds)
            ∧ (HoldsDigits bag property → NumberLaws (¬ IsNanText literal.toList) holds))
      ∧ (∀ other : Bag, bag property = none → other property = some "null" →
        ∀ op, outcome op = Expression.evaluate ⟨property, op, literal⟩ other)
      ∧ (∀ (r : Record) (op : Operator),
        Expression.evaluate ⟨property, op, literal⟩ (r.insertNull property).lookup
          = Expression.evaluate ⟨property, op, literal⟩
            (r.insert property (.string "null")).lookup)
      ∧ (IsWord property.toList →
        ∀ op, test (Expression.text ⟨property, op, literal⟩) bag = outcome op) := by
  intro outcome
  refine ⟨?_, ?_, ?_, ?_⟩
  · by_cases digits : HoldsDigits bag property
    · by_cases number : IsNumberText literal.toList
      · obtain ⟨order, nan, outcomes⟩ := evaluate_of_number digits number
        refine .inr ⟨fun h => h.2 number, fun op => op.holds order, outcomes, ?_, ?_⟩
        · intro noDigits
          exact absurd digits noDigits
        · intro _
          rw [← nan]
          exact numberLaws_holds order
      · exact .inl ⟨evaluate_of_not_number digits number, digits, number⟩
    · obtain ⟨text, outcomes⟩ := evaluate_of_not_holdsDigits digits literal
      refine .inr ⟨fun h => digits h.1, _, outcomes, ?_, ?_⟩
      · intro _
        exact textLaws_holdsForText text literal
      · intro h
        exact absurd h digits
  · intro other missing null op
    exact evaluate_of_missing missing null op literal
  · intro r op
    apply evaluate_of_missing
    · simp [Record.lookup, Record.insertNull, Record.insert, Value.text?]
    · simp [Record.lookup, Record.insert, Value.text?]
  · intro named op
    exact test_of_parse (Expression.parse_text named) bag

/-- Fifteen is unequal to what is no number, and nothing else; and a name that is
missing is compared with `Jane` as the text `null` is. -/
theorem operators_cohere_nan :
    let bag : Bag := fun name => if name = "age" then some "15" else none
    let other : Bag := fun _ => some "null"
    (∀ op : Operator, test (Expression.text ⟨"age", op, "-NaN"⟩) bag = .ok (op == .notEqual))
      ∧ ∀ op : Operator, Expression.evaluate ⟨"name", op, "Jane"⟩ bag
        = Expression.evaluate ⟨"name", op, "Jane"⟩ other := by
  intro bag other
  have digits : HoldsDigits bag "age" := ⟨"15", rfl, by decide⟩
  have number : IsNumberText "-NaN".toList := .word .minus (by decide)
  have nan : IsNanText "-NaN".toList := .word .minus (by decide)
  obtain ⟨laws, -, -, written⟩ := operators_cohere "age" "-NaN" bag
  refine ⟨?_, (operators_cohere "name" "Jane" bag).2.1 other rfl rfl⟩
  intro op
  rw [written (by decide) op]
  rcases laws with ⟨-, -, refused⟩ | ⟨-, holds, outcomes, -, numbers⟩
  · exact absurd number refused
  · have only := (numbers digits).incomparable (not_not_intro nan) op
    rw [outcomes op, Except.ok.injEq, Bool.eq_iff_iff, only, beq_iff_eq]

end SqlMapper.Condition
