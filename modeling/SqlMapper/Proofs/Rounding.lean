/-
Module: SqlMapper.Proofs.Rounding
Purpose: Rounding to a binary format keeps the order, and keeps small whole numbers.
Main exports: roundQuotient_mono, Format.round, Format.round_mono, Format.round_of_dvd,
  Format.magnitude, Format.magnitude_mono, Format.magnitude_of_le, Binary.compare?_ofNat
-/
import Mathlib.Algebra.Order.Ring.Nat
import Mathlib.Order.Compare
import SqlMapper.Number.Binary

namespace SqlMapper.Number

/-!
The numbers of a format around a magnitude are the multiples of a step, which is a
power of two and grows with the magnitude. Between two powers of two rounding is to
multiples of one step, which keeps the order; and it does not lead past a power of
two, for that is a multiple itself. So the order is kept everywhere, up to infinity,
and a whole number with no more bits than the format has is not changed at all.
-/

/-! ### Quotients -/

theorem roundQuotient_mul (whole : Nat) {step : Nat} (positive : 0 < step) :
    roundQuotient (whole * step) step = whole := by
  simp only [roundQuotient, Nat.mul_div_cancel whole positive, Nat.mul_mod_left, Nat.mul_zero,
    if_pos positive]

theorem roundQuotient_bounds (numerator denominator : Nat) :
    numerator / denominator ≤ roundQuotient numerator denominator
      ∧ roundQuotient numerator denominator ≤ numerator / denominator + 1 := by
  simp only [roundQuotient]
  split_ifs <;> omega

/-- A larger numerator does not round to a smaller quotient. -/
theorem roundQuotient_mono {a b denominator : Nat} (h : a ≤ b) :
    roundQuotient a denominator ≤ roundQuotient b denominator := by
  rcases Nat.lt_or_ge (a / denominator) (b / denominator) with less | notLess
  · calc
      roundQuotient a denominator ≤ a / denominator + 1 := (roundQuotient_bounds a denominator).2
      _ ≤ b / denominator := less
      _ ≤ roundQuotient b denominator := (roundQuotient_bounds b denominator).1
  · -- The same whole part: only the remainders decide.
    have whole : a / denominator = b / denominator :=
      Nat.le_antisymm (Nat.div_le_div_right h) notLess
    have rest : a % denominator ≤ b % denominator := by
      have ha := Nat.div_add_mod a denominator
      have hb := Nat.div_add_mod b denominator
      rw [whole] at ha
      omega
    simp only [roundQuotient, whole]
    split_ifs <;> omega

namespace Format

variable {f : Format} {a b n : Nat}

/-- The number of the format nearest to a whole number of units. -/
def round (f : Format) (units : Nat) : Nat :=
  roundQuotient units (f.spacing units) * f.spacing units

theorem spacing_eq (f : Format) (units : Nat) :
    f.spacing units = 2 ^ (units.log2 + 1 - f.precision) := rfl

theorem spacing_pos (f : Format) (units : Nat) : 0 < f.spacing units := Nat.two_pow_pos _

theorem spacing_dvd_pow {exponent : Nat} (h : a.log2 + 1 - f.precision ≤ exponent) :
    f.spacing a ∣ 2 ^ exponent := Nat.pow_dvd_pow 2 h

/-- Rounding does not lead past a multiple of the step. -/
theorem round_le_of_dvd (h : a ≤ b) (multiple : f.spacing a ∣ b) : f.round a ≤ b := by
  obtain ⟨whole, rfl⟩ := multiple
  rw [Nat.mul_comm] at h ⊢
  calc
    f.round a ≤ roundQuotient (whole * f.spacing a) (f.spacing a) * f.spacing a :=
      Nat.mul_le_mul_right _ (roundQuotient_mono h)
    _ = whole * f.spacing a := by rw [roundQuotient_mul whole (f.spacing_pos a)]

theorem le_round_of_dvd (h : b ≤ a) (multiple : f.spacing a ∣ b) : b ≤ f.round a := by
  obtain ⟨whole, rfl⟩ := multiple
  rw [Nat.mul_comm] at h ⊢
  calc
    whole * f.spacing a = roundQuotient (whole * f.spacing a) (f.spacing a) * f.spacing a := by
      rw [roundQuotient_mul whole (f.spacing_pos a)]
    _ ≤ f.round a := Nat.mul_le_mul_right _ (roundQuotient_mono h)

theorem round_of_dvd (multiple : f.spacing a ∣ a) : f.round a = a :=
  Nat.le_antisymm (round_le_of_dvd (Nat.le_refl a) multiple)
    (le_round_of_dvd (Nat.le_refl a) multiple)

/-- Rounding keeps the order. -/
theorem round_mono (precise : 0 < f.precision) (h : a ≤ b) : f.round a ≤ f.round b := by
  by_cases zero : a = 0
  · rw [zero, round_of_dvd (Nat.dvd_zero _)]
    exact Nat.zero_le _
  · have positive : b ≠ 0 := by omega
    have logs : a.log2 ≤ b.log2 :=
      (Nat.le_log2 positive).mpr (Nat.le_trans (Nat.log2_self_le zero) h)
    rcases Nat.lt_or_ge a.log2 b.log2 with less | notLess
    · -- A power of two stands between the two, and neither is rounded past it.
      calc
        f.round a ≤ 2 ^ (a.log2 + 1) :=
          round_le_of_dvd Nat.lt_log2_self.le (spacing_dvd_pow (Nat.sub_le _ _))
        _ ≤ 2 ^ b.log2 := Nat.pow_le_pow_right Nat.two_pos less
        _ ≤ f.round b :=
          le_round_of_dvd (Nat.log2_self_le positive) (spacing_dvd_pow (by omega))
    · have step : f.spacing a = f.spacing b := by
        rw [spacing_eq, spacing_eq, Nat.le_antisymm logs notLess]
      rw [round, round, step]
      exact Nat.mul_le_mul_right _ (roundQuotient_mono h)

/-- A whole number with no more bits than the format has is a number of the format. -/
theorem round_of_le (precise : 0 < f.precision) (h : n ≤ 2 ^ f.precision) :
    f.round (n * 2 ^ f.fraction) = n * 2 ^ f.fraction := by
  apply round_of_dvd
  by_cases zero : n = 0
  · rw [zero, Nat.zero_mul]
    exact Nat.dvd_zero _
  · rcases Nat.lt_or_eq_of_le h with less | rfl
    · have units : n * 2 ^ f.fraction ≠ 0 := Nat.mul_ne_zero zero (Nat.two_pow_pos _).ne'
      have bits : (n * 2 ^ f.fraction).log2 < f.precision + f.fraction := by
        rw [Nat.log2_lt units, Nat.pow_add]
        exact Nat.mul_lt_mul_of_pos_right less (Nat.two_pow_pos _)
      exact Nat.dvd_mul_left_of_dvd (spacing_dvd_pow (by omega)) n
    · rw [← Nat.pow_add]
      apply spacing_dvd_pow
      rw [Nat.log2_two_pow]
      omega

theorem nearestUnits_one (f : Format) (n : Nat) :
    f.nearestUnits n 1 = f.round (n * 2 ^ f.fraction) := by
  simp only [nearestUnits, round, Nat.div_one, Nat.one_mul]
  rfl

/-- Where a whole number stands among the numbers of the format, infinity standing
at the limit. -/
def magnitude (f : Format) (n : Nat) : Nat := min (f.round (n * 2 ^ f.fraction)) f.limit

theorem magnitude_mono (precise : 0 < f.precision) (h : a ≤ b) :
    f.magnitude a ≤ f.magnitude b :=
  min_le_min_right f.limit (round_mono precise (Nat.mul_le_mul_right _ h))

theorem magnitude_of_le (precise : 0 < f.precision) (wide : f.precision ≤ f.range)
    (h : n ≤ 2 ^ f.precision) : f.magnitude n = n * 2 ^ f.fraction := by
  rw [magnitude, round_of_le precise h]
  apply min_eq_left
  calc
    n * 2 ^ f.fraction ≤ 2 ^ f.range * 2 ^ f.fraction :=
      Nat.mul_le_mul_right _ (Nat.le_trans h (Nat.pow_le_pow_right Nat.two_pos wide))
    _ = f.limit := by rw [← Nat.pow_add, Nat.add_comm]; rfl

end Format

namespace Binary

variable {f : Format}

theorem ofNat_zero : (ofNat 0 : Binary f) = .finite false 0 := by
  have limit : 0 < f.limit := Nat.two_pow_pos _
  rw [ofNat, ofRatio, Format.nearestUnits_one, Nat.zero_mul,
    Format.round_of_dvd (Nat.dvd_zero _), ofUnits, if_pos limit]

theorem position?_ofUnits (units : Nat) :
    (ofUnits false units : Binary f).position? = some ((min units f.limit : Nat) : Int) := by
  rw [ofUnits]
  split_ifs with finite
  · rw [min_eq_left finite.le]
    rfl
  · rw [min_eq_right (Nat.le_of_not_lt finite)]
    rfl

theorem position?_ofNat (n : Nat) :
    (ofNat n : Binary f).position? = some (f.magnitude n : Int) := by
  rw [ofNat, ofRatio, position?_ofUnits, Format.nearestUnits_one, Format.magnitude]

/-- Whole numbers are ordered by where they stand among the numbers of the format. -/
theorem compare?_ofNat (m n : Nat) :
    (ofNat m : Binary f).compare? (ofNat n)
      = some (compare (f.magnitude m : Int) (f.magnitude n : Int)) := by
  rw [compare?, position?_ofNat, position?_ofNat]

end Binary

end SqlMapper.Number
