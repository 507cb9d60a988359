/-
Module: SqlMapper.Proofs.ShortestDecimals
Purpose: What the shortest decimal of a binary number tells about the number: whether
  it is whole, and how large it is.
Main exports: exists_shortest, isNormal_shortest, isWhole_shortest_iff, exponent_shortest_le,
  neg_five_le_exponent_shortest_iff, magnitudeText_plain_eq_json_iff
-/
import SqlMapper.Proofs.DecimalForms
import SqlMapper.Proofs.DecimalGrids

namespace SqlMapper.Number

/-!
The shortest decimal of a number is a point of the first grid with a point that rounds to
it. The grid whose last place is that of the ones has every whole number among its points,
so the decimal of a whole number is whole. Next to a number with a fraction no whole
number is so near that it rounds to it, so its decimal has a fraction. The exponent of the
decimal is that of the number unless a power of ten above the number rounds to it, which
happens to no double at the bound of the forms without an exponent.
-/

variable {f : Format} {units places point : Nat} {last : Int} {tieUp : Bool}

/-- The shortest decimal is the point of the first grid that has one. -/
theorem exists_shortest (narrow : f.IsNarrow) (positive : units ≠ 0) (tieUp : Bool) :
    ∃ places point last, 0 < places ∧ gridPoint? f tieUp units places = some (point, last)
      ∧ (∀ n, 0 < n → n ≤ 17 → (gridPoint? f tieUp units n).isSome = true → places ≤ n)
      ∧ shortest f tieUp units = .ofPoint point last := by
  rw [shortest]
  cases search : (List.range 17).findSome? fun n => gridPoint? f tieUp units (n + 1) with
  | none =>
    have nowhere := List.findSome?_eq_none_iff.mp search 16 (by decide)
    have found := isSome_gridPoint?_seventeen narrow positive tieUp
    rw [nowhere] at found
    cases found
  | some found =>
    obtain ⟨point, last⟩ := found
    obtain ⟨before, n, after, range, found, nowhere⟩ := List.findSome?_eq_some_iff.mp search
    refine ⟨n + 1, point, last, Nat.succ_pos n, found, ?_, rfl⟩
    intro m positive small inside
    obtain ⟨m, rfl⟩ := Nat.exists_eq_succ_of_ne_zero positive.ne'
    have member : m ∈ List.range 17 := List.mem_range.mpr small
    rw [range] at member
    have ordered : List.Pairwise (· < ·) (List.range 17) := List.pairwise_lt_range
    rw [range, List.pairwise_append, List.pairwise_cons] at ordered
    rcases List.mem_append.mp member with early | late
    · rw [nowhere m early] at inside
      cases inside
    · rcases List.mem_cons.mp late with rfl | late
      · exact Nat.le_refl _
      · exact Nat.succ_le_succ (ordered.2.1.1 m late).le

/-! ### The decimal of a point -/

theorem gridUnits_zero (f : Format) (last : Int) : gridUnits f 0 last = 0 := by
  rw [gridUnits, Nat.cast_zero, zero_mul, zero_mul]

/-- What rounds to a positive number is positive. -/
theorem point_ne_zero (precise : 0 < f.precision) (positive : units ≠ 0)
    (rounds : RoundsTo f units (gridUnits f point last)) : point ≠ 0 := by
  rintro rfl
  obtain ⟨near, -⟩ := near_of_roundsTo precise positive rounds
  have small : (f.spacing units : ℚ) ≤ units := by exact_mod_cast spacing_le precise positive
  have least : (0 : ℚ) < units := by exact_mod_cast Nat.pos_of_ne_zero positive
  rw [gridUnits_zero] at near
  linarith

/-- The exponent of the decimal is that of the power of ten below the point. -/
theorem exponent_ofPoint_bounds (f : Format) (positive : point ≠ 0) (last : Int) :
    let exponent := (Decimal.ofPoint point last).exponent
    (10 : ℚ) ^ exponent * 2 ^ f.fraction ≤ gridUnits f point last
      ∧ gridUnits f point last < 10 ^ (exponent + 1) * 2 ^ f.fraction := by
  obtain ⟨k, length, least, greatest⟩ := exists_length_decimalDigits positive
  have exponent : (Decimal.ofPoint point last).exponent = k + last := by
    simp only [Decimal.ofPoint, length]
    push_cast
    ring
  have unit : (0 : ℚ) < 2 ^ f.fraction := by positivity
  have scale : (0 : ℚ) < 10 ^ last := by positivity
  intro exponent'
  rw [show exponent' = k + last from exponent, gridUnits, mul_le_mul_iff_left₀ unit,
    mul_lt_mul_iff_left₀ unit, add_right_comm, zpow_add₀ (by norm_num), zpow_add₀ (by norm_num),
    mul_le_mul_iff_left₀ scale, mul_lt_mul_iff_left₀ scale]
  exact ⟨by exact_mod_cast least, by exact_mod_cast greatest⟩

theorem isWhole_ofPoint (h : 0 ≤ last) : (Decimal.ofPoint point last).IsWhole := by
  obtain ⟨trail, whole, -⟩ := Decimal.exists_zeros_ofPoint point last
  have length := congrArg List.length whole
  rw [List.length_append] at length
  have exponent : (Decimal.ofPoint point last).exponent = last + (decimalDigits point).length - 1 :=
    rfl
  rw [Decimal.IsWhole, exponent]
  omega

/-- The point of a whole decimal is a whole number. -/
theorem exists_gridUnits_eq (whole : (Decimal.ofPoint point last).IsWhole) :
    ∃ n : Nat, gridUnits f point last = (n * 2 ^ f.fraction : Nat) := by
  obtain ⟨trail, digits, -⟩ := Decimal.exists_zeros_ofPoint point last
  have length := congrArg List.length digits
  rw [List.length_append, zeros, List.length_replicate] at length
  have exponent : (Decimal.ofPoint point last).exponent = last + (decimalDigits point).length - 1 :=
    rfl
  rw [Decimal.IsWhole, exponent] at whole
  obtain ⟨k, power⟩ := Int.eq_ofNat_of_zero_le (show 0 ≤ (trail : Int) + last by omega)
  have value : point = 10 ^ trail * Nat.ofDigitChars 10 (Decimal.ofPoint point last).digits 0 := by
    rw [← Nat.ofDigitChars_replicate_zero, ← zeros, ← Nat.ofDigitChars_append, ← digits,
      decimalDigits, Nat.ofDigitChars_ten_toDigits]
  refine ⟨Nat.ofDigitChars 10 (Decimal.ofPoint point last).digits 0 * 10 ^ k, ?_⟩
  have scaled : (10 : ℚ) ^ trail * 10 ^ last = 10 ^ k := by
    rw [← zpow_natCast, ← zpow_natCast, ← zpow_add₀ (by norm_num), power]
  rw [gridUnits]
  conv_lhs => rw [value]
  push_cast
  rw [← scaled]
  ring

/-! ### The number and its shortest decimal -/

section Shortest

variable (narrow : f.IsNarrow) (positive : units ≠ 0) (tieUp : Bool)
include narrow positive

theorem isNormal_shortest : (shortest f tieUp units).IsNormal := by
  obtain ⟨places, point, last, -, found, -, whole⟩ := exists_shortest narrow positive tieUp
  rw [whole]
  have rounds := (gridPoint?_cases found).2.2
  exact Decimal.isNormal_ofPoint (point_ne_zero narrow.precise positive rounds) last

/-- The grid whose last place is that of the ones has a whole number among its points. -/
theorem isSome_gridPoint?_of_dvd (whole : 2 ^ f.fraction ∣ units)
    (grid : 0 = leadingExponent f units + 1 - places) :
    (gridPoint? f tieUp units places).isSome = true := by
  apply isSome_gridPoint? tieUp grid
  obtain ⟨n, rfl⟩ := whole
  have floor : gridFloor f (2 ^ f.fraction * n) 0 = n := by
    simp only [gridFloor, Int.neg_zero, Int.toNat_zero, Nat.pow_eq, Nat.pow_zero, Nat.mul_one]
    exact Nat.mul_div_cancel_left n (Nat.two_pow_pos _)
  have same : gridUnits f n 0 = (2 ^ f.fraction * n : Nat) := by
    rw [gridUnits, zpow_zero, mul_one, mul_comm]
    push_cast
    rfl
  rw [floor, same]
  exact .inl (roundsTo_self narrow positive)

theorem isWhole_shortest_of_dvd (whole : 2 ^ f.fraction ∣ units) :
    (shortest f tieUp units).IsWhole := by
  obtain ⟨places, point, last, nonempty, found, least, same⟩ :=
    exists_shortest narrow positive tieUp
  obtain ⟨grid, -, -⟩ := gridPoint?_cases found
  rw [same]
  apply isWhole_ofPoint
  have one : (2 : ℚ) ^ f.fraction ≤ units := by
    exact_mod_cast Nat.le_of_dvd (Nat.pos_of_ne_zero positive) whole
  have leading : 0 < leadingExponent f units + 1 := by
    have upper := one.trans_lt (leadingExponent_bounds f positive).2
    rw [lt_mul_iff_one_lt_left (by positivity)] at upper
    exact (one_lt_zpow_iff_right₀ (by norm_num)).mp upper
  obtain ⟨n, count⟩ := Int.eq_ofNat_of_zero_le leading.le
  have seventeen := least 17 (by decide) (by decide)
    (isSome_gridPoint?_seventeen narrow positive tieUp)
  by_cases small : n ≤ 17
  · have first := least n (by omega) small
      (isSome_gridPoint?_of_dvd narrow positive tieUp whole (by omega))
    omega
  · omega

/-- Multiples of the spacing that round to the number are the number. -/
theorem eq_of_roundsTo {n : Nat} (multiple : f.spacing units ∣ units) (other : f.spacing units ∣ n)
    (rounds : RoundsTo f units n) : n = units := by
  obtain ⟨lower, upper⟩ := near_of_roundsTo narrow.precise positive rounds
  have lower : 2 * units ≤ 2 * n + f.spacing units := by
    exact_mod_cast (by linarith : (2 : ℚ) * units ≤ 2 * n + f.spacing units)
  have upper : 2 * n ≤ 2 * units + f.spacing units := by
    exact_mod_cast (by linarith : (2 : ℚ) * n ≤ 2 * units + f.spacing units)
  have spacing := f.spacing_pos units
  rcases Nat.lt_trichotomy n units with less | same | greater
  · have := Nat.le_of_dvd (Nat.sub_pos_of_lt less) (Nat.dvd_sub multiple other)
    omega
  · exact same
  · have := Nat.le_of_dvd (Nat.sub_pos_of_lt greater) (Nat.dvd_sub other multiple)
    omega

/-- A whole number next to a number with a fraction is too far away to round to it. -/
theorem dvd_of_isWhole_shortest (multiple : f.spacing units ∣ units)
    (whole : (shortest f tieUp units).IsWhole) : 2 ^ f.fraction ∣ units := by
  obtain ⟨places, point, last, -, found, -, same⟩ := exists_shortest narrow positive tieUp
  obtain ⟨-, -, rounds⟩ := gridPoint?_cases found
  rw [same] at whole
  obtain ⟨n, position⟩ := exists_gridUnits_eq (f := f) whole
  rw [position] at rounds
  rcases Nat.le_total f.fraction (units.log2 + 1 - f.precision) with coarse | fine
  · exact (Nat.pow_dvd_pow 2 coarse).trans multiple
  · have other : f.spacing units ∣ n * 2 ^ f.fraction :=
      Nat.dvd_mul_left_of_dvd (Nat.pow_dvd_pow 2 fine) n
    rw [← eq_of_roundsTo narrow positive multiple other rounds]
    exact Nat.dvd_mul_left _ _

/-- The shortest decimal of a number is whole if the number is. -/
theorem isWhole_shortest_iff (multiple : f.spacing units ∣ units) :
    (shortest f tieUp units).IsWhole ↔ 2 ^ f.fraction ∣ units :=
  ⟨dvd_of_isWhole_shortest narrow positive tieUp multiple,
    isWhole_shortest_of_dvd narrow positive tieUp⟩

/-- The exponent of the shortest decimal tells in which power of ten it lies, and the
decimal is not far from the number. -/
theorem exists_position_shortest :
    ∃ position : ℚ, RoundsTo f units position
      ∧ (10 : ℚ) ^ (shortest f tieUp units).exponent * 2 ^ f.fraction ≤ position
      ∧ position < 10 ^ ((shortest f tieUp units).exponent + 1) * 2 ^ f.fraction
      ∧ 10 ^ leadingExponent f units * 2 ^ f.fraction ≤ position := by
  obtain ⟨places, point, last, nonempty, found, -, same⟩ := exists_shortest narrow positive tieUp
  obtain ⟨grid, around, rounds⟩ := gridPoint?_cases found
  have nonzero := point_ne_zero narrow.precise positive rounds
  obtain ⟨least, greatest⟩ := exponent_ofPoint_bounds f nonzero last
  rw [same]
  refine ⟨gridUnits f point last, rounds, least, greatest, ?_⟩
  -- The power of ten below the number is itself a point of the grid.
  have scale : (0 : ℚ) < 10 ^ last * 2 ^ f.fraction := by positivity
  obtain ⟨n, digits⟩ := Nat.exists_eq_succ_of_ne_zero nonempty.ne'
  have leading : (10 : ℚ) ^ leadingExponent f units = (10 ^ n : Nat) * 10 ^ last := by
    rw [show leadingExponent f units = n + last by omega, zpow_add₀ (by norm_num), zpow_natCast]
    push_cast
    rfl
  rw [leading]
  have floor : 10 ^ n < gridFloor f units last + 1 := by
    have := (leadingExponent_bounds f positive).1.trans_lt (gridFloor_bounds f units last).2
    rw [leading, gridUnits, mul_assoc, mul_assoc _ _ ((2 : ℚ) ^ f.fraction),
      mul_lt_mul_iff_left₀ scale] at this
    exact_mod_cast this
  have below : 10 ^ n ≤ point := by omega
  rw [gridUnits, mul_assoc, mul_assoc _ _ ((2 : ℚ) ^ f.fraction), mul_le_mul_iff_left₀ scale]
  exact_mod_cast below

/-- Numbers with a fraction are small: they have fewer than seventeen places before
the point. -/
theorem exponent_shortest_le (multiple : f.spacing units ∣ units)
    (fraction : ¬ 2 ^ f.fraction ∣ units) : (shortest f tieUp units).exponent ≤ 15 := by
  obtain ⟨position, rounds, least, -, -⟩ := exists_position_shortest narrow positive tieUp
  obtain ⟨-, upper⟩ := near_of_roundsTo narrow.precise positive rounds
  have fine : units.log2 + 1 - f.precision < f.fraction := by
    by_contra coarse
    exact fraction ((Nat.pow_dvd_pow 2 (not_lt.mp coarse)).trans multiple)
  have bound : units * 2 < 2 ^ f.precision * 2 ^ f.fraction := by
    calc
      units * 2 < 2 ^ (units.log2 + 1) * 2 :=
        Nat.mul_lt_mul_of_pos_right Nat.lt_log2_self Nat.two_pos
      _ = 2 ^ (units.log2 + 1 + 1) := (Nat.pow_succ ..).symm
      _ ≤ 2 ^ (f.precision + f.fraction) := Nat.pow_le_pow_right Nat.two_pos (by omega)
      _ = 2 ^ f.precision * 2 ^ f.fraction := Nat.pow_add ..
  have small : (f.spacing units : ℚ) ≤ units := by
    exact_mod_cast spacing_le narrow.precise positive
  have bound : (units : ℚ) * 2 < 10 ^ 16 * 2 ^ f.fraction := by
    exact_mod_cast bound.trans
      (Nat.mul_lt_mul_of_pos_right narrow.narrow (Nat.two_pow_pos f.fraction))
  have power : (10 : ℚ) ^ (shortest f tieUp units).exponent * 2 ^ f.fraction
      < 10 ^ (16 : Int) * 2 ^ f.fraction := by
    refine (least.trans upper).trans_lt ?_
    rw [show (10 : ℚ) ^ (16 : Int) = 10 ^ 16 from zpow_natCast 10 16]
    linarith
  rw [mul_lt_mul_iff_left₀ (by positivity)] at power
  have := (zpow_lt_zpow_iff_right₀ (by norm_num : (1 : ℚ) < 10)).mp power
  omega

end Shortest

/-! ### Doubles -/

/-- Below the power of ten from which JSON texts have no exponent there is no number with
the bits of a double so near that the power rounds to it. -/
theorem not_near_power {k : Nat} (precision : f.precision = 53) (fraction : f.fraction = k + 70)
    (multiple : f.spacing units ∣ units) (below : 10 ^ 5 * units < 2 ^ f.fraction) :
    10 ^ 5 * (2 * units + f.spacing units) < 2 * 2 ^ f.fraction := by
  have under := Nat.lt_log2_self (n := units)
  have positive : 0 < 2 ^ k := Nat.two_pow_pos k
  rw [Format.spacing_eq, precision] at multiple ⊢
  rw [fraction, Nat.pow_add] at below ⊢
  rcases Nat.lt_trichotomy units.log2 (k + 53) with less | same | greater
  · have spacing : 2 ^ (units.log2 + 1 - 53) ≤ 2 ^ k :=
      Nat.pow_le_pow_right Nat.two_pos (by omega)
    have small : units < 2 ^ k * 2 ^ 53 := by
      rw [← Nat.pow_add]
      exact under.trans_le (Nat.pow_le_pow_right Nat.two_pos less)
    omega
  · -- In these steps the power is more than half of one above the last number below it.
    have step : 2 ^ (units.log2 + 1 - 53) = 2 ^ k * 2 := by
      rw [same, ← Nat.pow_succ]
      congr 1
    rw [step] at multiple ⊢
    obtain ⟨m, rfl⟩ := multiple
    have steps : 10 ^ 5 * m < 2 ^ 69 := by
      apply Nat.lt_of_mul_lt_mul_right (a := 2 ^ k * 2)
      linarith
    have half : 10 ^ 5 * (2 * m + 1) < 2 * 2 ^ 69 := by omega
    have := Nat.mul_lt_mul_of_pos_right half (Nat.mul_pos positive Nat.two_pos)
    linarith
  · have nonzero : units ≠ 0 := by
      rintro rfl
      rw [Nat.log2_zero] at greater
      omega
    have large : 2 ^ k * 2 ^ 54 ≤ units := by
      rw [← Nat.pow_add]
      exact (Nat.pow_le_pow_right Nat.two_pos greater).trans (Nat.log2_self_le nonzero)
    omega

/-- The shortest decimal of a double needs no exponent in JSON texts if the double is
not below the power of ten at which that starts. -/
theorem neg_five_le_exponent_shortest_iff (positive : units ≠ 0) (tieUp : Bool)
    (multiple : Format.double.spacing units ∣ units) :
    -5 ≤ (shortest Format.double tieUp units).exponent
      ↔ 2 ^ Format.double.fraction ≤ 10 ^ 5 * units := by
  obtain ⟨position, rounds, least, greatest, leading⟩ :=
    exists_position_shortest isNarrow_double positive tieUp
  have ten : (1 : ℚ) < 10 := by norm_num
  have unit : (0 : ℚ) < 2 ^ Format.double.fraction := by positivity
  constructor
  · intro exponent
    by_contra below
    have near := (near_of_roundsTo isNarrow_double.precise positive rounds).2
    have gap : (10 : ℚ) ^ 5 * (2 * units + Format.double.spacing units)
        < 2 * 2 ^ Format.double.fraction := by
      exact_mod_cast not_near_power (k := 1004) rfl rfl multiple (not_le.mp below)
    have power : (10 : ℚ) ^ (-5 : Int) * 2 ^ Format.double.fraction ≤ position :=
      (mul_le_mul_of_nonneg_right (zpow_le_zpow_right₀ ten.le exponent) unit.le).trans least
    rw [zpow_neg, inv_mul_le_iff₀ (by positivity)] at power
    have scaled : (10 : ℚ) ^ (5 : Int) = 10 ^ 5 := zpow_natCast 10 5
    rw [scaled] at power
    linarith
  · intro above
    have above : (2 : ℚ) ^ Format.double.fraction ≤ 10 ^ 5 * units := by exact_mod_cast above
    have upper := (leadingExponent_bounds Format.double positive).2
    have first : (10 : ℚ) ^ (-5 : Int) < 10 ^ (leadingExponent Format.double units + 1) := by
      rw [← mul_lt_mul_iff_left₀ unit]
      refine lt_of_le_of_lt ?_ upper
      rw [zpow_neg, inv_mul_le_iff₀ (by positivity), show (10 : ℚ) ^ (5 : Int) = 10 ^ 5 from
        zpow_natCast 10 5]
      exact above
    have last : (10 : ℚ) ^ leadingExponent Format.double units
        < 10 ^ ((shortest Format.double tieUp units).exponent + 1) := by
      rw [← mul_lt_mul_iff_left₀ unit]
      exact leading.trans_lt greatest
    have := (zpow_lt_zpow_iff_right₀ ten).mp first
    have := (zpow_lt_zpow_iff_right₀ ten).mp last
    omega

/-- The plain form of a double is its form in JSON texts if the double has a fraction,
is not below the power of ten from which these have no exponent, and a tie between two
shortest decimals goes to the same one in both. -/
theorem magnitudeText_plain_eq_json_iff (multiple : Format.double.spacing units ∣ units) :
    magnitudeText Format.double Style.plain units = magnitudeText Format.double Style.json units
      ↔ ¬ 2 ^ Format.double.fraction ∣ units
        ∧ 2 ^ Format.double.fraction ≤ 10 ^ 5 * units
        ∧ shortest Format.double true units = shortest Format.double false units := by
  by_cases zero : units = 0
  · rw [magnitudeText, magnitudeText, if_pos zero, if_pos zero, zero]
    exact iff_of_false (by decide) fun h => h.1 (Nat.dvd_zero _)
  · have normal (tieUp : Bool) := isNormal_shortest isNarrow_double zero tieUp
    rw [magnitudeText_of_ne_zero zero, magnitudeText_of_ne_zero zero]
    refine (Decimal.positional_eq_json_iff (normal true) (normal false)).trans ?_
    rw [neg_five_le_exponent_shortest_iff zero true multiple,
      isWhole_shortest_iff isNarrow_double zero true multiple]
    constructor
    · rintro ⟨same, least, -, fraction⟩
      exact ⟨fraction, least, same⟩
    · rintro ⟨fraction, least, same⟩
      have greatest := exponent_shortest_le isNarrow_double zero true multiple fraction
      exact ⟨same, least, greatest, fraction⟩

end SqlMapper.Number
