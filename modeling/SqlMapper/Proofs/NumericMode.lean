/-
Module: SqlMapper.Proofs.NumericMode
Purpose: Which JSON values a test compares as numbers.
Main exports: Value.Fits, Value.Counts, counts_toValue_iff, Source.Binds,
  holdsDigits_iff_counts, numbers_compared_iff_counts
-/
import SqlMapper.Proofs.Comparison
import SqlMapper.Proofs.DecimalForms
import SqlMapper.Proofs.WholeNumberTests

namespace SqlMapper.Number

/-!
A test compares numbers if the value of its property is digits and nothing else. The
texts of JSON values are of that form for the integers that are not negative and for
the strings that are of that form themselves. The text of a double always has a point
or an exponent, whatever its magnitude, and every other value starts with a letter, a
bracket or a sign.
-/

/-! ### Texts of doubles -/

theorem isDigits_text_json {f : Format} (x : Binary f) :
    isDigits (x.text Style.json).toList = false := by
  cases x with
  | nan => exact isDigits_eq_false_of_mem (c := 'N') (by simp [Binary.text]) rfl
  | infinite negative =>
    cases negative <;> exact isDigits_eq_false_of_mem (c := 'i') (by simp [Binary.text]) rfl
  | finite negative units =>
    obtain ⟨c, member, mark⟩ := exists_mark_magnitudeText f units
    refine isDigits_eq_false_of_mem (c := c) ?_ (by rcases mark with rfl | rfl <;> rfl)
    rw [Binary.text, String.toList_ofList]
    exact List.mem_append_right _ member

end SqlMapper.Number

namespace SqlMapper.Json

open SqlMapper.Number SqlMapper.Parameter

/-! ### Values that count -/

namespace Value

/-- An integer fits in 64 bits, signed or unsigned; every other value may be any of
its kind. -/
def Fits : Value → Prop
  | .integer n => -2 ^ 63 ≤ n ∧ n < 2 ^ 64
  | _ => True

/-- A value that stands for a natural number: an unsigned integer of 64 bits, or a
string of digits. -/
inductive Counts : Value → Nat → Prop where
  | integer {n : Nat} (small : n < 2 ^ 64) : Counts (.integer n) n
  | string {text : String} (digits : isDigits text.toList = true) :
      Counts (.string text) (Nat.ofDigitChars 10 text.toList 0)

theorem isDigits_integerText_iff {n : Int} : isDigits (integerText n) = true ↔ 0 ≤ n := by
  rw [integerText]
  split
  · rename_i negative
    rw [isDigits_eq_false_of_mem List.mem_cons_self rfl]
    exact iff_of_false nofun (not_le_of_gt negative)
  · rename_i natural
    exact iff_of_true (isDigits_decimalDigits _) (not_lt.mp natural)

/-- The text of a value is digits alone if the value stands for a natural number, and
the digits are those of the number. -/
theorem jsonText?_of_counts {v : Value} {n : Nat} (counts : v.Counts n) :
    ∃ text, jsonText? v = some text ∧ isDigits text.toList = true
      ∧ Nat.ofDigitChars 10 text.toList 0 = n := by
  cases counts with
  | integer small =>
    refine ⟨_, rfl, ?_, ?_⟩
    · rw [String.toList_ofList]
      exact isDigits_integerText_iff.mpr (Int.natCast_nonneg n)
    · rw [String.toList_ofList, compact, integerText, if_neg (by omega), Int.natAbs_natCast]
      exact Nat.ofDigitChars_ten_toDigits
  | @string text digits => exact ⟨text, rfl, digits, rfl⟩

theorem exists_counts_of_isDigits {v : Value} (fits : v.Fits) {text : String}
    (shown : jsonText? v = some text) (digits : isDigits text.toList = true) : ∃ n, v.Counts n := by
  cases v with
  | null => cases shown
  | string text' =>
    cases shown
    exact ⟨_, .string digits⟩
  | integer n =>
    cases shown
    rw [String.toList_ofList] at digits
    obtain ⟨m, rfl⟩ := Int.eq_ofNat_of_zero_le (isDigits_integerText_iff.mp digits)
    exact ⟨m, .integer (by have := fits.2; omega)⟩
  | boolean value =>
    cases shown
    cases value <;> exact absurd digits (by decide)
  | double x =>
    cases shown
    rw [compact, String.ofList_toList, isDigits_text_json] at digits
    cases digits
  | array items =>
    cases shown
    rw [String.toList_ofList, compact, isDigits_eq_false_of_mem List.mem_cons_self rfl] at digits
    cases digits
  | object fields =>
    cases shown
    rw [String.toList_ofList, compact, isDigits_eq_false_of_mem List.mem_cons_self rfl] at digits
    cases digits

end Value

/-! ### Numbers as they are written -/

namespace NumberLiteral

/-- A number that is written with digits alone, and fits in 64 bits. -/
structure IsCount (l : NumberLiteral) : Prop where
  unsigned : l.negative = false
  whole : l.fraction = none ∧ l.exponent = none
  small : Nat.ofDigitChars 10 l.whole 0 < 2 ^ 64

theorem integer?_of_isCount {l : NumberLiteral} (count : l.IsCount) :
    l.integer? = some (Nat.ofDigitChars 10 l.whole 0 : Nat) := by
  have small : digitsValue l.whole ≤ significandLimit := Nat.le_pred_of_lt count.small
  rw [integer?, if_pos count.whole]
  simp only [count.unsigned, Bool.false_eq_true, if_false, if_pos small]
  rfl

/-- An integer is written with digits alone, or it is negative. -/
theorem integer?_cases {l : NumberLiteral} {n : Int} (read : l.integer? = some n) :
    (l.IsCount ∧ n = (Nat.ofDigitChars 10 l.whole 0 : Nat)) ∨ (n < 0 ∧ -2 ^ 63 ≤ n) := by
  simp only [integer?] at read
  split_ifs at read with whole signed inside small
  · cases read
    obtain ⟨positive, bound⟩ : 0 < digitsValue l.whole ∧ digitsValue l.whole ≤ 2 ^ 63 := inside
    exact .inr ⟨by omega, by omega⟩
  · cases read
    exact .inl ⟨⟨Bool.eq_false_iff.mpr signed, whole, Nat.lt_of_le_pred (by decide) small⟩, rfl⟩

/-- A number that was read is an integer that fits in 64 bits, or a double. -/
theorem fits_toValue {l : NumberLiteral} {number : Number} (read : l.value? = some number) :
    number.toValue.Fits := by
  cases number with
  | double x => exact trivial
  | integer n =>
    have whole : l.integer? = some n := by
      rw [value?] at read
      split at read
      · cases read
        assumption
      · simp at read
    rcases integer?_cases whole with ⟨count, rfl⟩ | ⟨negative, bound⟩
    · exact ⟨by omega, by exact_mod_cast count.small⟩
    · exact ⟨bound, by omega⟩

theorem counts_toValue_iff {l : NumberLiteral} {number : Number} (read : l.value? = some number) :
    (∃ n, number.toValue.Counts n) ↔ l.IsCount := by
  rw [value?] at read
  constructor
  · rintro ⟨n, counts⟩
    split at read
    · rename_i value whole
      cases read
      rcases integer?_cases whole with ⟨count, -⟩ | ⟨negative, -⟩
      · exact count
      · cases counts
        exact absurd negative (by omega)
    · obtain ⟨x, -, rfl⟩ := Option.map_eq_some_iff.mp read
      cases counts
  · intro count
    rw [integer?_of_isCount count] at read
    cases read
    exact ⟨_, .integer count.small⟩

end NumberLiteral

end SqlMapper.Json

namespace SqlMapper.Parameter

/-! ### Sources -/

/-- A JSON object, or a map of JSON values, has this value under the name. -/
inductive Source.Binds : Source → String → Json.Value → Prop where
  | json {object v : Json.Value} {name : String} (found : object.field? name = some v) :
      Source.Binds (.json object) name v
  | map {entries : Dictionary Json.Value} {v : Json.Value} {name : String}
      (found : entries.find? name = some v) : Source.Binds (.map entries) name v

theorem Source.lookup_of_binds {source : Source} {name : String} {v : Json.Value}
    (bound : source.Binds name v) : source.lookup name = jsonText? v := by
  cases bound with
  | json found => simp only [Source.lookup, found, Option.bind_some]
  | map found => simp only [Source.lookup, found, Option.bind_some]

end SqlMapper.Parameter

namespace SqlMapper.Condition

open SqlMapper.Json SqlMapper.Number SqlMapper.Parameter

/-! ### Outcomes -/

section Outcomes

variable {source : Parameter.Source} {property literal : String} {v : Json.Value}

theorem holdsDigits_iff_counts (bound : source.Binds property v) (fits : v.Fits) :
    HoldsDigits source.lookup property ↔ ∃ n, v.Counts n := by
  rw [HoldsDigits, Source.lookup_of_binds bound]
  constructor
  · rintro ⟨text, shown, digits⟩
    exact Json.Value.exists_counts_of_isDigits fits shown digits
  · rintro ⟨n, counts⟩
    obtain ⟨text, shown, digits, -⟩ := Json.Value.jsonText?_of_counts counts
    exact ⟨text, shown, digits⟩

/-- A value that counts is compared as the number it stands for. -/
theorem evaluate_of_counts (bound : source.Binds property v) {n : Nat} (counts : v.Counts n)
    {y : Double} (read : readBinary? Format.double literal.toList = some y) (op : Operator) :
    Expression.evaluate ⟨property, op, literal⟩ source.lookup
      = .ok (op.holds ((Binary.ofNat n : Double).compare? y)) := by
  obtain ⟨text, shown, digits, value⟩ := Json.Value.jsonText?_of_counts counts
  have denoted : digitsValue text.toList = n := value
  rw [Expression.evaluate, Source.lookup_of_binds bound, shown, Expression.evaluateAt,
    if_pos digits, compareDecimals?, readBinary?_of_isDigits Format.double digits, read,
    value_whole, denoted]

/-- Every other value is compared as the text it shows, null as the text `null`. -/
theorem evaluate_of_not_counts (bound : source.Binds property v) (fits : v.Fits)
    (other : ∀ n, ¬ v.Counts n) (op : Operator) :
    Expression.evaluate ⟨property, op, literal⟩ source.lookup
      = .ok (op.holdsForText ((jsonText? v).getD missingText) literal) := by
  rw [Expression.evaluate, Source.lookup_of_binds bound]
  cases shown : jsonText? v with
  | none => rfl
  | some text =>
    have noDigits : ¬ isDigits text.toList = true := by
      intro digits
      obtain ⟨n, counts⟩ := Json.Value.exists_counts_of_isDigits fits shown digits
      exact other n counts
    rw [Expression.evaluateAt, if_neg noDigits, Option.getD_some]

/-- A test of a JSON value against a number compares numbers if the value is an
unsigned integer of 64 bits or a string of digits, and in no other case: then it
compares the texts, and no ordering operator holds. Unless the literal is the word
that is no number, the outcomes tell the two cases apart. Of the numbers that are
read, those written with digits alone and fitting in 64 bits are compared as numbers;
a sign, a fraction or an exponent, or a digit too many, is enough for a text. -/
theorem numbers_compared_iff_counts (bound : source.Binds property v) (fits : v.Fits)
    (numeric : IsNumberText literal.toList) :
    let outcome (op : Operator) : Except ConditionError Bool :=
      Expression.evaluate ⟨property, op, literal⟩ source.lookup
    (∃ y : Double, readBinary? Format.double literal.toList = some y
        ∧ ∀ n, v.Counts n →
          ∀ op, outcome op = .ok (op.holds ((Binary.ofNat n : Double).compare? y)))
      ∧ ((∀ n, ¬ v.Counts n) → ∀ op,
        outcome op = .ok (op.holdsForText ((jsonText? v).getD missingText) literal)
          ∧ (op.isOrdering = true → outcome op = .ok false))
      ∧ (¬ IsNanText literal.toList →
        ((∃ op : Operator, op.isOrdering = true ∧ outcome op = .ok true) ↔ ∃ n, v.Counts n))
      ∧ (∀ (l : NumberLiteral) (number : Json.Number), l.value? = some number →
        v = number.toValue → ((∃ n, v.Counts n) ↔ l.IsCount))
      ∧ ∀ op text, Expression.parse text = .ok ⟨property, op, literal⟩ →
        test text source.lookup = outcome op := by
  intro outcome
  have texts (other : ∀ n, ¬ v.Counts n) (op : Operator) :
      outcome op = .ok (op.holdsForText ((jsonText? v).getD missingText) literal) :=
    evaluate_of_not_counts bound fits other op
  have unordered (other : ∀ n, ¬ v.Counts n) (op : Operator) (ordering : op.isOrdering = true) :
      outcome op = .ok false := by
    rw [texts other op, (textLaws_holdsForText _ literal).unordered op ordering]
  refine ⟨?_, ?_, ?_, ?_, ?_⟩
  · obtain ⟨y, read⟩ := (exists_readBinary?_iff (f := Format.double)).mpr numeric
    exact ⟨y, read, fun n counts op => evaluate_of_counts bound counts read op⟩
  · intro other op
    exact ⟨texts other op, unordered other op⟩
  · intro number
    constructor
    · rintro ⟨op, ordering, holds⟩
      by_contra none
      rw [unordered (not_exists.mp none) op ordering] at holds
      cases holds
    · rintro counts
      obtain ⟨order, nan, outcomes⟩ :=
        evaluate_of_number ((holdsDigits_iff_counts bound fits).mpr counts) numeric
      obtain ⟨o, rfl⟩ := Option.ne_none_iff_exists'.mp (mt nan.mp number)
      -- One of the two weak orderings holds whatever the order.
      cases o with
      | lt => exact ⟨.lessOrEqual, rfl, outcomes .lessOrEqual⟩
      | eq => exact ⟨.lessOrEqual, rfl, outcomes .lessOrEqual⟩
      | gt => exact ⟨.greaterOrEqual, rfl, outcomes .greaterOrEqual⟩
  · rintro l number read rfl
    exact NumberLiteral.counts_toValue_iff read
  · intro op text read
    rw [test, read]

end Outcomes

/-- The largest integer of 64 bits is compared as a number, fifteen as a double is
compared as the text `15.0`. -/
theorem numbers_compared_iff_counts_at_limit :
    let object : Json.Value := .object
      [("id", .integer 18446744073709551615), ("price", .double (.finite false (15 * 2 ^ 1074)))]
    let bag : Bag := (Parameter.Source.json object).lookup
    (∃ op : Operator, op.isOrdering = true ∧ Expression.evaluate ⟨"id", op, "10"⟩ bag = .ok true)
      ∧ test "price > 10" bag = .ok false := by
  intro object bag
  have read := readBinary?_of_isDigits Format.double
    (show isDigits "10".toList = true by decide)
  have number : IsNumberText "10".toList := exists_readBinary?_iff.mp ⟨_, read⟩
  have notNan : ¬ IsNanText "10".toList := by
    rw [← readBinary?_eq_nan_iff (f := Format.double), read, Option.some.injEq]
    exact Numeral.value_ne_nan false _
  refine ⟨?_, ?_⟩
  · have bound : (Parameter.Source.json object).Binds "id" (.integer 18446744073709551615) :=
      .json rfl
    -- The number is read as an integer, and what is read fits.
    let written : NumberLiteral := ⟨false, "18446744073709551615".toList, none, none⟩
    have value : written.value? = some (.integer 18446744073709551615) := by decide
    have fits : (Json.Value.integer 18446744073709551615).Fits := NumberLiteral.fits_toValue value
    obtain ⟨-, -, ordered, -, -⟩ := numbers_compared_iff_counts bound fits number
    exact (ordered notNan).mpr ⟨18446744073709551615, .integer (by decide)⟩
  · have bound : (Parameter.Source.json object).Binds "price"
        (.double (.finite false (15 * 2 ^ 1074))) := .json rfl
    obtain ⟨-, texts, -, -, tests⟩ := numbers_compared_iff_counts bound trivial number
    rw [tests .greaterThan "price > 10" (by rfl)]
    exact (texts (fun n counts => by cases counts) .greaterThan).2 rfl

end SqlMapper.Condition
