/-
Module: SqlMapper.Proofs.WholeNumberTests
Purpose: Tests of digits against digits respect the order of the whole numbers they denote.
Main exports: Operator.Relates, holds_compare_iff, value_whole, evaluate_of_isDigits,
  whole_numbers_ordered
-/
import Mathlib.Order.Compare
import SqlMapper.Condition.Evaluation
import SqlMapper.Proofs.NumberText
import SqlMapper.Proofs.Rounding

namespace SqlMapper.Condition

open SqlMapper.Number SqlMapper.Parameter

/-!
Digits of any number are compared after rounding. Rounding keeps the order, so a
test never says that the smaller of two numbers is the larger one; but it may make
two numbers equal, and from the limit of the format on it makes all of them equal.
Up to the power of two that needs one bit more than the format has, nothing is
rounded and the tests are exact.
-/

/-- The relation that an operator stands for. -/
def Operator.Relates {α : Type} [LE α] [LT α] : Operator → α → α → Prop
  | .equal, a, b => a = b
  | .notEqual, a, b => a ≠ b
  | .lessThan, a, b => a < b
  | .lessOrEqual, a, b => a ≤ b
  | .greaterThan, a, b => b < a
  | .greaterOrEqual, a, b => b ≤ a

theorem holds_compare_iff {α : Type} [LinearOrder α] (op : Operator) (a b : α) :
    op.holds (some (compare a b)) = true ↔ op.Relates a b := by
  cases op with
  | equal => simp [Operator.holds, Operator.Relates]
  | notEqual => simp [Operator.holds, Operator.Relates]
  | lessThan => simp [Operator.holds, Operator.Relates, compare_lt_iff_lt]
  | lessOrEqual =>
    simp [Operator.holds, Operator.Relates, compare_lt_iff_lt, le_iff_lt_or_eq]
  | greaterThan => simp [Operator.holds, Operator.Relates, compare_gt_iff_gt]
  | greaterOrEqual =>
    simp [Operator.holds, Operator.Relates, compare_gt_iff_gt, le_iff_lt_or_eq, @eq_comm _ b a]

theorem relates_map_iff {α β : Type} [LinearOrder α] [LinearOrder β] {g : α → β} (mono : StrictMono g)
    (op : Operator) (a b : α) : op.Relates (g a) (g b) ↔ op.Relates a b := by
  cases op with
  | equal => exact mono.injective.eq_iff
  | notEqual => exact mono.injective.ne_iff
  | lessThan => exact mono.lt_iff_lt
  | lessOrEqual => exact mono.le_iff_le
  | greaterThan => exact mono.lt_iff_lt
  | greaterOrEqual => exact mono.le_iff_le

theorem holds_of_le {α : Type} [LinearOrder α] {a b : α} (h : a ≤ b) :
    Operator.lessOrEqual.holds (some (compare a b)) = true
      ∧ Operator.greaterThan.holds (some (compare a b)) = false := by
  refine ⟨(holds_compare_iff .lessOrEqual a b).mpr h, ?_⟩
  rw [Bool.eq_false_iff, ne_eq, holds_compare_iff]
  exact not_lt_of_ge h

theorem holds_of_ge {α : Type} [LinearOrder α] {a b : α} (h : b ≤ a) :
    Operator.greaterOrEqual.holds (some (compare a b)) = true
      ∧ Operator.lessThan.holds (some (compare a b)) = false := by
  refine ⟨(holds_compare_iff .greaterOrEqual a b).mpr h, ?_⟩
  rw [Bool.eq_false_iff, ne_eq, holds_compare_iff]
  exact not_lt_of_ge h

/-- A numeral without a fraction and without a power of ten is a whole number. -/
theorem value_whole {f : Format} (n places : Nat) :
    (Numeral.value false ⟨n, places, 0⟩ : Binary f) = Binary.ofNat n := by
  rw [Numeral.value]
  split_ifs with zero far near whole
  · obtain rfl : n = 0 := zero
    exact Binary.ofNat_zero.symm
  · exact absurd (show Numeral.horizon < 0 from far) (by decide)
  · simp only [Numeral.horizon] at near
    omega
  · rw [Int.toNat_zero, Binary.ofNat]
    congr 1
    exact Nat.mul_one n
  · exact absurd (Int.le_refl 0) whole

/-- Up to the power of two with one bit more than a double has, the order of whole
numbers is the order of the numbers they are rounded to. -/
theorem relates_magnitude_iff {m n : Nat} (small : m ≤ 2 ^ 53) (small' : n ≤ 2 ^ 53)
    (op : Operator) :
    op.Relates (Format.double.magnitude m : Int) (Format.double.magnitude n : Int)
      ↔ op.Relates m n := by
  have kept {k : Nat} (h : k ≤ 2 ^ 53) :
      Format.double.magnitude k = k * 2 ^ Format.double.fraction :=
    Format.magnitude_of_le (by decide) (by decide) h
  have scaled : StrictMono fun k : Nat => ((k * 2 ^ Format.double.fraction : Nat) : Int) :=
    fun a b h => Int.ofNat_lt.mpr (Nat.mul_lt_mul_of_pos_right h (Nat.two_pow_pos _))
  rw [kept small, kept small']
  exact relates_map_iff scaled op m n

/-! ### Outcomes -/

section Outcomes

variable {property value literal : String} {bag : Bag}

/-- A test of digits against digits speaks of where the two numbers stand among the
numbers with 64 bits. -/
theorem evaluate_of_isDigits (found : bag property = some value)
    (left : isDigits value.toList = true) (right : isDigits literal.toList = true) (op : Operator) :
    Expression.evaluate ⟨property, op, literal⟩ bag
      = .ok (op.holds (some (compare
          (Format.double.magnitude (digitsValue value.toList) : Int)
          (Format.double.magnitude (digitsValue literal.toList) : Int)))) := by
  rw [Expression.evaluate, found, Expression.evaluateAt, if_pos left, compareDecimals?,
    readBinary?_of_isDigits Format.double left, readBinary?_of_isDigits Format.double right]
  simp only [value_whole, Binary.compare?_ofNat]

/-- Tests of digits against digits, of any length and with any zeros in front, do not
fail and do not turn the order of the two numbers around; equal numbers are equal.
Up to `2 ^ 53` they are exact. -/
theorem whole_numbers_ordered (found : bag property = some value)
    (left : isDigits value.toList = true) (right : isDigits literal.toList = true) :
    let m := Nat.ofDigitChars 10 value.toList 0
    let n := Nat.ofDigitChars 10 literal.toList 0
    ∃ holds : Operator → Bool,
      (∀ op, Expression.evaluate ⟨property, op, literal⟩ bag = .ok (holds op))
        ∧ (∀ op text, Expression.parse text = .ok ⟨property, op, literal⟩ →
          test text bag = .ok (holds op))
        ∧ (m < n → holds .lessOrEqual = true ∧ holds .greaterThan = false)
        ∧ (n < m → holds .greaterOrEqual = true ∧ holds .lessThan = false)
        ∧ (m = n → holds .equal = true ∧ holds .lessOrEqual = true ∧ holds .greaterOrEqual = true)
        ∧ (m ≤ 2 ^ 53 → n ≤ 2 ^ 53 → ∀ op : Operator, holds op = true ↔ op.Relates m n) := by
  intro m n
  have outcomes := evaluate_of_isDigits found left right
  have mono {a b : Nat} (h : a ≤ b) :
      (Format.double.magnitude a : Int) ≤ Format.double.magnitude b :=
    Int.ofNat_le.mpr (Format.magnitude_mono (by decide) h)
  refine ⟨_, outcomes, ?_, ?_, ?_, ?_, ?_⟩
  · intro op text read
    rw [← outcomes op, test, read]
  · intro less
    exact holds_of_le (mono less.le)
  · intro less
    exact holds_of_ge (mono less.le)
  · intro same
    refine ⟨?_, (holds_of_le (mono same.le)).1, (holds_of_ge (mono same.ge)).1⟩
    exact (holds_compare_iff .equal _ _).mpr (congrArg _ (congrArg _ same))
  · intro small small' op
    rw [holds_compare_iff]
    exact relates_magnitude_iff small small' op

end Outcomes

/-- The number after `2 ^ 53` is rounded to it, and is still not smaller; digits with
zeros in front are compared as a number. -/
theorem whole_numbers_ordered_large :
    let bag : Bag := fun name =>
      if name = "id" then some "9007199254740993" else if name = "age" then some "007" else none
    Expression.evaluate ⟨"id", .greaterOrEqual, "0009007199254740992"⟩ bag = .ok true
      ∧ Expression.evaluate ⟨"id", .lessThan, "0009007199254740992"⟩ bag = .ok false
      ∧ test "age < 10" bag = .ok true := by
  intro bag
  obtain ⟨holds, outcomes, -, -, greater, -, -⟩ :=
    whole_numbers_ordered (show bag "id" = some "9007199254740993" from rfl) (by decide)
      (show isDigits "0009007199254740992".toList = true by decide)
  obtain ⟨notSmaller, notLess⟩ := greater (by decide)
  obtain ⟨holds', -, tests, -, -, -, exactly⟩ :=
    whole_numbers_ordered (show bag "age" = some "007" from rfl) (by decide)
      (show isDigits "10".toList = true by decide)
  refine ⟨(outcomes .greaterOrEqual).trans (congrArg _ notSmaller),
    (outcomes .lessThan).trans (congrArg _ notLess), ?_⟩
  rw [tests .lessThan "age < 10" (by rfl), (exactly (by decide) (by decide) .lessThan).mpr]
  show Nat.ofDigitChars 10 "007".toList 0 < Nat.ofDigitChars 10 "10".toList 0
  decide

end SqlMapper.Condition
