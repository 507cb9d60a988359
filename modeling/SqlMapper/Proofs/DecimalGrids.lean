/-
Module: SqlMapper.Proofs.DecimalGrids
Purpose: Points of decimal grids around a binary number, and which of them round to it.
Main exports: leadingExponent_bounds, gridFloor_bounds, RoundsTo, gridPoint?_cases,
  roundsTo_of_near, near_of_roundsTo, isSome_gridPoint?_seventeen
-/
import Mathlib.Algebra.Order.Field.Power
import Mathlib.Algebra.Order.Field.Rat
import Mathlib.Tactic.FieldSimp
import Mathlib.Tactic.Linarith
import Mathlib.Tactic.NormNum
import Mathlib.Tactic.Positivity
import Mathlib.Tactic.Ring
import SqlMapper.Number.Shortest
import SqlMapper.Proofs.Rounding

namespace SqlMapper.Number

/-!
A number of a format has a neighbourhood in which everything rounds to it: half of the
way to the number above, and half of the way to the one below. Of each decimal grid two
points stand around the number. If the grid is finer than the distance to the number
below, one of the two is in the neighbourhood, and with seventeen places every grid is.
All positions are given in units of the format.
-/

variable {f : Format} {units places point : Nat} {last : Int} {tieUp : Bool}

/-! ### Powers of ten -/

theorem zpow_mul_pow_toNat (last : Int) :
    (10 : ℚ) ^ last * 10 ^ (-last).toNat = 10 ^ last.toNat := by
  rw [← zpow_natCast, ← zpow_natCast, ← zpow_add₀ (by norm_num)]
  congr 1
  omega

/-- A positive number lies between the powers of ten with as many digits. -/
theorem exists_length_decimalDigits {n : Nat} (positive : n ≠ 0) :
    ∃ k, (decimalDigits n).length = k + 1 ∧ 10 ^ k ≤ n ∧ n < 10 ^ (k + 1) := by
  have bound {k : Nat} (h : k ≠ 0) : (decimalDigits n).length ≤ k ↔ n < 10 ^ k :=
    Nat.length_toDigits_le_iff (by decide) (Nat.pos_of_ne_zero h)
  obtain ⟨k, length⟩ : ∃ k, (decimalDigits n).length = k + 1 :=
    Nat.exists_eq_succ_of_ne_zero (Nat.ne_of_gt Nat.length_toDigits_pos)
  refine ⟨k, length, ?_, (bound (Nat.succ_ne_zero k)).mp length.le⟩
  by_cases single : k = 0
  · rw [single]
    exact Nat.one_le_iff_ne_zero.mpr positive
  · rw [← not_lt, ← bound single]
    omega

/-- How often a number goes into a larger one, rounded up, less one. -/
theorem ceiling_bounds {whole part : Nat} (positive : part ≠ 0) (larger : part < whole) :
    let times := (whole + part - 1) / part - 1
    times ≠ 0 ∧ part * times < whole ∧ whole ≤ part * (times + 1) := by
  intro times
  have lower := Nat.div_mul_le_self (whole + part - 1) part
  have upper := Nat.lt_mul_div_succ (whole + part - 1) (Nat.pos_of_ne_zero positive)
  have two : 2 ≤ (whole + part - 1) / part := by
    rw [Nat.le_div_iff_mul_le (Nat.pos_of_ne_zero positive)]
    omega
  obtain ⟨n, quotient⟩ : ∃ n, (whole + part - 1) / part = n + 1 := ⟨_, (Nat.sub_add_cancel
    (Nat.le_of_succ_le two)).symm⟩
  have same : times = n := by simp only [times, quotient, Nat.add_sub_cancel]
  rw [quotient, Nat.mul_comm, Nat.mul_succ] at lower
  rw [quotient, Nat.mul_succ] at upper
  rw [same]
  exact ⟨by omega, by omega, by omega⟩

/-- The power of ten of the first digit. -/
theorem leadingExponent_bounds (f : Format) (positive : units ≠ 0) :
    (10 : ℚ) ^ leadingExponent f units * 2 ^ f.fraction ≤ units
      ∧ (units : ℚ) < 10 ^ (leadingExponent f units + 1) * 2 ^ f.fraction := by
  have unit : 0 < 2 ^ f.fraction := Nat.two_pow_pos f.fraction
  simp only [leadingExponent, Nat.pow_eq]
  split_ifs with large
  · -- The digits of the whole part.
    obtain ⟨k, length, least, greatest⟩ :=
      exists_length_decimalDigits (Nat.div_pos large unit).ne'
    rw [length, Nat.cast_succ, add_sub_cancel_right, ← Nat.cast_succ, zpow_natCast, zpow_natCast]
    constructor
    · exact_mod_cast (Nat.le_div_iff_mul_le unit).mp least
    · exact_mod_cast (Nat.div_lt_iff_lt_mul unit).mp greatest
  · -- The zeros before the first digit are the digits of the reciprocal.
    obtain ⟨times, below, above⟩ := ceiling_bounds positive (not_le.mp large)
    obtain ⟨k, length, least, greatest⟩ := exists_length_decimalDigits times
    have lower : 2 ^ f.fraction ≤ units * 10 ^ (k + 1) :=
      above.trans (Nat.mul_le_mul_left _ greatest)
    have upper : units * 10 ^ k < 2 ^ f.fraction := (Nat.mul_le_mul_left _ least).trans_lt below
    rw [length, Nat.cast_succ, neg_add, neg_add_cancel_right, ← neg_add, ← Nat.cast_succ,
      zpow_neg, zpow_neg, zpow_natCast, zpow_natCast]
    constructor
    · rw [inv_mul_le_iff₀ (by positivity), mul_comm]
      exact_mod_cast lower
    · rw [lt_inv_mul_iff₀ (by positivity), mul_comm]
      exact_mod_cast upper

/-! ### Points of decimal grids -/

/-- Where a point of a decimal grid stands, in units. -/
def gridUnits (f : Format) (point : Nat) (last : Int) : ℚ := point * 10 ^ last * 2 ^ f.fraction

/-- A point of a grid on the scale on which it is compared. -/
theorem gridUnits_mul_pow (f : Format) (point : Nat) (last : Int) :
    gridUnits f point last * 10 ^ (-last).toNat
      = ((point * (2 ^ f.fraction * 10 ^ last.toNat) : Nat) : ℚ) := by
  rw [gridUnits, mul_right_comm, mul_assoc (point : ℚ), zpow_mul_pow_toNat]
  push_cast
  ring

/-- The last point of a grid that is not above the number. -/
def gridFloor (f : Format) (units : Nat) (last : Int) : Nat :=
  units * Nat.pow 10 (-last).toNat / (Nat.pow 2 f.fraction * Nat.pow 10 last.toNat)

theorem gridFloor_bounds (f : Format) (units : Nat) (last : Int) :
    gridUnits f (gridFloor f units last) last ≤ units
      ∧ (units : ℚ) < gridUnits f (gridFloor f units last + 1) last := by
  have positive : 0 < 2 ^ f.fraction * 10 ^ last.toNat := by positivity
  have scale : (0 : ℚ) < 10 ^ (-last).toNat := by positivity
  constructor
  · have lower : gridFloor f units last * (2 ^ f.fraction * 10 ^ last.toNat)
        ≤ units * 10 ^ (-last).toNat := Nat.div_mul_le_self _ _
    rw [← mul_le_mul_iff_left₀ scale, gridUnits_mul_pow]
    exact_mod_cast lower
  · have upper : units * 10 ^ (-last).toNat
        < (gridFloor f units last + 1) * (2 ^ f.fraction * 10 ^ last.toNat) := by
      rw [mul_comm (_ + 1)]
      exact Nat.lt_mul_div_succ _ positive
    rw [← mul_lt_mul_iff_left₀ scale, gridUnits_mul_pow]
    exact_mod_cast upper

/-- Whatever stands here, in units, rounds to the number. -/
def RoundsTo (f : Format) (units : Nat) (position : ℚ) : Prop :=
  let (low, high, closed) := roundingInterval f units
  if closed then low ≤ 4 * position ∧ 4 * position ≤ high
  else low < 4 * position ∧ 4 * position < high

/-- Whether a point of a grid rounds to the number. -/
def gridInside (f : Format) (units : Nat) (last : Int) (point : Nat) : Bool :=
  let denominator := Nat.pow 2 f.fraction * Nat.pow 10 last.toNat
  let (low, high, closed) := roundingInterval f units
  let quarters := 4 * point * denominator
  let least := low * Nat.pow 10 (-last).toNat
  let greatest := high * Nat.pow 10 (-last).toNat
  if closed then least ≤ quarters && quarters ≤ greatest
  else least < quarters && quarters < greatest

/-- A grid gives the lower or the upper of the two points around the number, whichever
rounds to it. -/
theorem gridPoint?_eq (tieUp : Bool) (grid : last = leadingExponent f units + 1 - places) :
    ∃ up : Bool, gridPoint? f tieUp units places =
        match gridInside f units last (gridFloor f units last),
          gridInside f units last (gridFloor f units last + 1) with
        | false, false => none
        | true, false => some (gridFloor f units last, last)
        | false, true => some (gridFloor f units last + 1, last)
        | true, true =>
            some (if up then gridFloor f units last + 1 else gridFloor f units last, last) := by
  subst grid
  exact ⟨_, rfl⟩

theorem gridInside_iff :
    gridInside f units last point = true ↔ RoundsTo f units (gridUnits f point last) := by
  have scale : (0 : ℚ) < 10 ^ (-last).toNat := by positivity
  have quarters : 4 * gridUnits f point last * 10 ^ (-last).toNat
      = ((4 * point * (2 ^ f.fraction * 10 ^ last.toNat) : Nat) : ℚ) := by
    rw [mul_assoc, gridUnits_mul_pow]
    push_cast
    ring
  have least (n : Nat) : n * 10 ^ (-last).toNat ≤ 4 * point * (2 ^ f.fraction * 10 ^ last.toNat)
      ↔ (n : ℚ) ≤ 4 * gridUnits f point last := by
    rw [← mul_le_mul_iff_left₀ scale, quarters]
    exact_mod_cast Iff.rfl
  have greatest (n : Nat) : 4 * point * (2 ^ f.fraction * 10 ^ last.toNat) ≤ n * 10 ^ (-last).toNat
      ↔ 4 * gridUnits f point last ≤ n := by
    rw [← mul_le_mul_iff_left₀ scale, quarters]
    exact_mod_cast Iff.rfl
  rw [gridInside, RoundsTo]
  obtain ⟨low, high, closed⟩ := roundingInterval f units
  cases closed with
  | true =>
    simp only [Nat.pow_eq, if_true, Bool.and_eq_true, decide_eq_true_eq]
    exact and_congr (least low) (greatest high)
  | false =>
    simp only [Nat.pow_eq, Bool.false_eq_true, if_false, Bool.and_eq_true, decide_eq_true_eq]
    rw [← not_le, ← not_le, greatest, least, not_le, not_le]

/-- What a grid gives is one of the two points around the number, and rounds to it. -/
theorem gridPoint?_cases (found : gridPoint? f tieUp units places = some (point, last)) :
    last = leadingExponent f units + 1 - places
      ∧ (point = gridFloor f units last ∨ point = gridFloor f units last + 1)
      ∧ RoundsTo f units (gridUnits f point last) := by
  obtain ⟨up, whole⟩ := gridPoint?_eq tieUp (rfl : _ = leadingExponent f units + 1 - places)
  rw [whole] at found
  simp only [← gridInside_iff]
  split at found
  · cases found
  · cases found
    exact ⟨rfl, .inl rfl, ‹_›⟩
  · cases found
    exact ⟨rfl, .inr rfl, ‹_›⟩
  · cases found
    cases up
    · exact ⟨rfl, .inl rfl, ‹_›⟩
    · exact ⟨rfl, .inr rfl, ‹_›⟩

/-- A grid gives a point if one of the two around the number rounds to it. -/
theorem isSome_gridPoint? (tieUp : Bool) (grid : last = leadingExponent f units + 1 - places)
    (inside : RoundsTo f units (gridUnits f (gridFloor f units last) last)
      ∨ RoundsTo f units (gridUnits f (gridFloor f units last + 1) last)) :
    (gridPoint? f tieUp units places).isSome = true := by
  obtain ⟨up, whole⟩ := gridPoint?_eq tieUp grid
  rw [whole]
  rw [← gridInside_iff, ← gridInside_iff] at inside
  rcases inside with floor | ceiling
  · rw [floor]
    split <;> first | rfl | contradiction
  · rw [ceiling]
    split <;> first | rfl | contradiction

/-! ### What rounds to a number -/

/-- Seventeen digits are enough to tell the numbers of the format apart. -/
structure Format.IsNarrow (f : Format) : Prop where
  precise : 0 < f.precision
  narrow : 2 ^ f.precision < 10 ^ 16

theorem isNarrow_double : Format.double.IsNarrow := ⟨by decide, by decide⟩

/-- The distance to the neighbour below; it is halved at a power of two. -/
def gapBelow (f : Format) (units : Nat) : Nat :=
  if 1 < f.spacing units ∧ units = 2 ^ units.log2 then f.spacing units / 2 else f.spacing units

theorem gapBelow_le_spacing (f : Format) (units : Nat) : gapBelow f units ≤ f.spacing units := by
  rw [gapBelow]
  split
  · exact Nat.div_le_self _ _
  · exact Nat.le_refl _

theorem spacing_le (precise : 0 < f.precision) (positive : units ≠ 0) :
    f.spacing units ≤ units :=
  (Nat.pow_le_pow_right Nat.two_pos (by omega)).trans (Nat.log2_self_le positive)

theorem lt_pow_mul_spacing (f : Format) (units : Nat) :
    units < 2 ^ f.precision * f.spacing units := by
  rw [Format.spacing_eq, ← Nat.pow_add]
  exact Nat.lt_log2_self.trans_le (Nat.pow_le_pow_right Nat.two_pos (by omega))

/-- A number has at most sixteen digits in gaps. -/
theorem lt_pow_mul_gapBelow (narrow : f.IsNarrow) (units : Nat) :
    units < 10 ^ 16 * gapBelow f units := by
  rw [gapBelow]
  split_ifs with half
  · obtain ⟨wide, power⟩ := half
    rw [Format.spacing_eq] at wide ⊢
    obtain ⟨k, exponent⟩ : ∃ k, units.log2 + 1 - f.precision = k + 1 := by
      apply Nat.exists_eq_succ_of_ne_zero
      intro zero
      rw [zero] at wide
      exact absurd wide (by decide)
    have log : units.log2 = f.precision + k := by omega
    have halved : 2 ^ (k + 1) / 2 = 2 ^ k := by
      rw [Nat.pow_succ, Nat.mul_div_cancel _ Nat.two_pos]
    rw [exponent, halved]
    calc
      units = 2 ^ f.precision * 2 ^ k := by rw [power, log, Nat.pow_add]
      _ < 10 ^ 16 * 2 ^ k := Nat.mul_lt_mul_of_pos_right narrow.narrow (Nat.two_pow_pos k)
  · exact (lt_pow_mul_spacing f units).trans_le (Nat.mul_le_mul_right _ narrow.narrow.le)

theorem roundingInterval_eq (f : Format) (units : Nat) :
    roundingInterval f units = (4 * units - 2 * gapBelow f units,
      4 * units + 2 * f.spacing units, decide (units / f.spacing units % 2 = 0)) := rfl

/-- What is nearer than half of a gap rounds to the number. -/
theorem roundsTo_of_near (precise : 0 < f.precision) (positive : units ≠ 0) {position : ℚ}
    (lower : units < position + gapBelow f units / 2)
    (upper : position < units + f.spacing units / 2) : RoundsTo f units position := by
  have gap := (gapBelow_le_spacing f units).trans (spacing_le precise positive)
  have low : ((4 * units - 2 * gapBelow f units : Nat) : ℚ) < 4 * position := by
    rw [Nat.cast_sub (by omega)]
    push_cast
    linarith
  have high : 4 * position < ((4 * units + 2 * f.spacing units : Nat) : ℚ) := by
    push_cast
    linarith
  rw [RoundsTo, roundingInterval_eq]
  simp only
  split
  · exact ⟨low.le, high.le⟩
  · exact ⟨low, high⟩

/-- What rounds to the number is no farther from it than half of the spacing. -/
theorem near_of_roundsTo (precise : 0 < f.precision) (positive : units ≠ 0) {position : ℚ}
    (rounds : RoundsTo f units position) :
    units ≤ position + f.spacing units / 2 ∧ position ≤ units + f.spacing units / 2 := by
  have gap := gapBelow_le_spacing f units
  have small := spacing_le precise positive
  obtain ⟨low, high⟩ : ((4 * units - 2 * gapBelow f units : Nat) : ℚ) ≤ 4 * position
      ∧ 4 * position ≤ ((4 * units + 2 * f.spacing units : Nat) : ℚ) := by
    rw [RoundsTo, roundingInterval_eq] at rounds
    simp only at rounds
    split at rounds
    · exact rounds
    · exact ⟨rounds.1.le, rounds.2.le⟩
  rw [Nat.cast_sub (by omega)] at low
  have gap : (gapBelow f units : ℚ) ≤ f.spacing units := by exact_mod_cast gap
  push_cast at low high
  constructor <;> linarith

theorem roundsTo_self (narrow : f.IsNarrow) (positive : units ≠ 0) : RoundsTo f units units := by
  have gap : 0 < gapBelow f units := by
    have := lt_pow_mul_gapBelow narrow units
    omega
  have gap : (0 : ℚ) < gapBelow f units := by exact_mod_cast gap
  have spacing : (0 : ℚ) < f.spacing units := by exact_mod_cast f.spacing_pos units
  exact roundsTo_of_near narrow.precise positive (by linarith) (by linarith)

/-! ### Seventeen places -/

theorem gridUnits_succ (f : Format) (point : Nat) (last : Int) :
    gridUnits f (point + 1) last = gridUnits f point last + 10 ^ last * 2 ^ f.fraction := by
  rw [gridUnits, gridUnits]
  push_cast
  ring

/-- The grid with seventeen places is finer than half of a gap. -/
theorem isSome_gridPoint?_seventeen (narrow : f.IsNarrow) (positive : units ≠ 0) (tieUp : Bool) :
    (gridPoint? f tieUp units 17).isSome = true := by
  have grid : leadingExponent f units - 16 = leadingExponent f units + 1 - (17 : Nat) := by omega
  apply isSome_gridPoint? tieUp grid
  set last := leadingExponent f units - 16 with hlast
  have step : (10 : ℚ) ^ last * 2 ^ f.fraction < gapBelow f units := by
    have leading := (leadingExponent_bounds f positive).1
    have digits : (units : ℚ) < 10 ^ 16 * gapBelow f units := by
      exact_mod_cast lt_pow_mul_gapBelow narrow units
    rw [show leadingExponent f units = 16 + last by omega, zpow_add₀ (by norm_num), mul_assoc]
      at leading
    have := leading.trans_lt digits
    exact lt_of_mul_lt_mul_left this (by positivity)
  obtain ⟨floor, ceiling⟩ := gridFloor_bounds f units last
  rw [gridUnits_succ] at ceiling ⊢
  have gap : (gapBelow f units : ℚ) ≤ f.spacing units := by
    exact_mod_cast gapBelow_le_spacing f units
  by_cases near : (units : ℚ) - gridUnits f (gridFloor f units last) last
      < gapBelow f units / 2
  · refine .inl (roundsTo_of_near narrow.precise positive (by linarith) ?_)
    have := Nat.cast_pos (α := ℚ).mpr (f.spacing_pos units)
    linarith
  · refine .inr (roundsTo_of_near narrow.precise positive ?_ ?_) <;> linarith

end SqlMapper.Number
