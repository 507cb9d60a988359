/-
Module: SqlMapper.Proofs.DecimalForms
Purpose: What the written forms of decimals tell about them: which show a point or an
  exponent, and which two are the same.
Main exports: Decimal.IsNormal, Decimal.IsWhole, Decimal.isNormal_ofPoint,
  Decimal.positional_inj, Decimal.positional_eq_jsonForm_iff, exists_mark_magnitudeText
-/
import Mathlib.Data.List.Basic
import SqlMapper.Number.Shortest
import SqlMapper.Proofs.NumberText

namespace SqlMapper.Number

/-!
The digits of a shortest decimal have no zero at either end, so the decimal can be
recovered from its form without an exponent, provided that a point stands in it. A
whole number has no point in the plain form, while in a JSON text every double has a
point or an exponent. Hence the two forms of a decimal agree if it has a fraction and
its exponent is within the bounds of JSON texts, and in no other case.
-/

/-! ### Digits and other characters -/

theorem isDigits_eq_false_of_mem {c : Char} {cs : List Char} (member : c ∈ cs)
    (other : c.isDigit = false) : isDigits cs = false := by
  rw [Bool.eq_false_iff]
  intro digits
  rw [(isDigits_iff.mp digits).2 c member] at other
  cases other

theorem isDigit_of_mem_decimalDigits {n : Nat} {c : Char} (member : c ∈ decimalDigits n) :
    c.isDigit = true :=
  Nat.isDigit_of_mem_toDigits (by decide) (by decide) member

theorem isDigits_decimalDigits (n : Nat) : isDigits (decimalDigits n) = true :=
  isDigits_iff.mpr ⟨Nat.toDigits_ne_nil, fun _ => isDigit_of_mem_decimalDigits⟩

theorem isDigit_of_mem_zeros {n : Nat} {c : Char} (member : c ∈ zeros n) : c.isDigit = true := by
  rw [List.eq_of_mem_replicate member]
  rfl

/-- No zero stands in front of the digits of a positive number. -/
theorem head?_decimalDigits {n : Nat} (positive : n ≠ 0) :
    (decimalDigits n).head? ≠ some '0' := by
  induction n using Nat.strongRecOn with
  | ind n ih =>
    rcases Nat.lt_or_ge n 10 with small | large
    · rw [decimalDigits, Nat.toDigits_of_lt_base small, List.head?_cons, ne_eq, Option.some.injEq]
      exact (by decide : ∀ m < 10, m ≠ 0 → Nat.digitChar m ≠ '0') n small positive
    · rw [decimalDigits, Nat.toDigits_of_base_le (by decide) large,
        List.head?_append_of_ne_nil _ Nat.toDigits_ne_nil]
      exact ih (n / 10) (by omega) (by omega)

namespace Decimal

variable {d d' : Decimal}

/-! ### Normal decimals -/

/-- There are digits, and no zero stands at either end of them. -/
structure IsNormal (d : Decimal) : Prop where
  digits : isDigits d.digits = true
  first : d.digits.head? ≠ some '0'
  last : d.digits.getLast? ≠ some '0'

/-- No digit stands behind the point. -/
def IsWhole (d : Decimal) : Prop := d.digits.length ≤ d.exponent + 1

instance (d : Decimal) : Decidable d.IsWhole := inferInstanceAs (Decidable (_ ≤ _))

/-- The digits of a point are those of the number, up to the zeros at the end. -/
theorem exists_zeros_ofPoint (point : Nat) (last : Int) :
    ∃ trail, decimalDigits point = (ofPoint point last).digits ++ zeros trail
      ∧ (ofPoint point last).digits.getLast? ≠ some '0' := by
  obtain ⟨front, back, nulls, edge, whole, -, rest⟩ :=
    SqlMapper.Text.exists_span (· == '0') (decimalDigits point).reverse
  have kept : (ofPoint point last).digits = back.reverse := by rw [ofPoint, rest]
  have same : front = zeros front.length :=
    List.eq_replicate_of_mem fun c member => beq_iff_eq.mp (nulls c member)
  refine ⟨front.length, ?_, ?_⟩
  · rw [kept, ← List.reverse_inj, whole, List.reverse_append, List.reverse_reverse, zeros,
      List.reverse_replicate, ← zeros, ← same]
  · rw [kept, List.getLast?_reverse]
    intro zero
    rw [zero] at edge
    cases edge

theorem isNormal_ofPoint {point : Nat} (positive : point ≠ 0) (last : Int) :
    (ofPoint point last).IsNormal := by
  obtain ⟨trail, whole, final⟩ := exists_zeros_ofPoint point last
  have first := head?_decimalDigits positive
  have nonempty : (ofPoint point last).digits ≠ [] := by
    intro none
    rw [none, List.nil_append] at whole
    rw [whole] at first
    have length : (decimalDigits point).length ≠ 0 := by
      rw [ne_eq, List.length_eq_zero_iff]
      exact Nat.toDigits_ne_nil
    rw [whole, zeros, List.length_replicate] at length
    obtain ⟨n, rfl⟩ := Nat.exists_eq_succ_of_ne_zero length
    exact first rfl
  refine ⟨isDigits_iff.mpr ⟨nonempty, ?_⟩, ?_, final⟩
  · intro c member
    apply isDigit_of_mem_decimalDigits (n := point)
    rw [whole]
    exact List.mem_append_left _ member
  · rwa [whole, List.head?_append_of_ne_nil _ nonempty] at first

/-! ### Forms without an exponent -/

/-- The digits before the point of a decimal with a fraction. -/
def front (d : Decimal) : List Char :=
  if d.exponent < 0 then ['0'] else d.digits.take (d.exponent.toNat + 1)

/-- The digits behind the point of a decimal with a fraction. -/
def back (d : Decimal) : List Char :=
  if d.exponent < 0 then zeros (-d.exponent - 1).toNat ++ d.digits
  else d.digits.drop (d.exponent.toNat + 1)

theorem positional_of_not_isWhole (fraction : ¬ d.IsWhole) (fractionOfWhole : Bool) :
    d.positional fractionOfWhole = d.front ++ '.' :: d.back := by
  rw [IsWhole] at fraction
  rw [positional, front, back]
  by_cases small : d.exponent < 0
  · rw [if_pos small, if_pos small, if_pos small, List.append_assoc]
    rfl
  · have long : ¬ d.digits.length ≤ d.exponent.toNat + 1 := by omega
    rw [if_neg small, if_neg small, if_neg small]
    exact if_neg long

theorem positional_of_isWhole (normal : d.IsNormal) (whole : d.IsWhole) (fractionOfWhole : Bool) :
    d.positional fractionOfWhole
      = d.digits ++ zeros (d.exponent.toNat + 1 - d.digits.length)
        ++ (if fractionOfWhole then ".0".toList else []) := by
  have nonempty := List.length_pos_iff.mpr (isDigits_iff.mp normal.digits).1
  simp only [positional, IsWhole] at *
  rw [if_neg (by omega), if_pos (by omega)]

theorem isDigit_of_mem_front (normal : d.IsNormal) {c : Char} (member : c ∈ d.front) :
    c.isDigit = true := by
  rw [front] at member
  split at member
  · rw [List.mem_singleton.mp member]
    rfl
  · exact (isDigits_iff.mp normal.digits).2 c (List.mem_of_mem_take member)

theorem isDigit_of_mem_back (normal : d.IsNormal) {c : Char} (member : c ∈ d.back) :
    c.isDigit = true := by
  have digits := (isDigits_iff.mp normal.digits).2
  rw [back] at member
  split at member
  · rcases List.mem_append.mp member with zero | digit
    · exact isDigit_of_mem_zeros zero
    · exact digits c digit
  · exact digits c (List.mem_of_mem_drop member)

theorem getLast?_back (normal : d.IsNormal) (fraction : ¬ d.IsWhole) :
    d.back.getLast? = d.digits.getLast? := by
  rw [IsWhole] at fraction
  rw [back]
  split
  · rw [List.getLast?_append_of_ne_nil _ (isDigits_iff.mp normal.digits).1]
  · rw [List.getLast?_drop, if_neg (by omega)]

/-- A decimal with a fraction does not end with a zero. -/
theorem getLast?_positional (normal : d.IsNormal) (fraction : ¬ d.IsWhole)
    (fractionOfWhole : Bool) : (d.positional fractionOfWhole).getLast? ≠ some '0' := by
  rw [positional_of_not_isWhole fraction, List.getLast?_append_of_ne_nil _ (List.cons_ne_nil _ _),
    List.getLast?_cons, getLast?_back normal fraction]
  cases final : d.digits.getLast? with
  | none => decide
  | some c =>
    rw [Option.getD_some, ← final]
    exact normal.last

/-- In a form without an exponent stand digits, and perhaps a point. -/
theorem isDigit_of_mem_positional (normal : d.IsNormal) (fractionOfWhole : Bool) {c : Char}
    (member : c ∈ d.positional fractionOfWhole) : c.isDigit = true ∨ c = '.' := by
  by_cases whole : d.IsWhole
  · rw [positional_of_isWhole normal whole] at member
    rcases List.mem_append.mp member with digit | point
    · rcases List.mem_append.mp digit with digit | zero
      · exact .inl ((isDigits_iff.mp normal.digits).2 c digit)
      · exact .inl (isDigit_of_mem_zeros zero)
    · cases fractionOfWhole with
      | false => cases point
      | true =>
        rcases List.mem_pair.mp point with rfl | rfl
        · exact .inr rfl
        · exact .inl rfl
  · rw [positional_of_not_isWhole whole] at member
    rcases List.mem_append.mp member with digit | rest
    · exact .inl (isDigit_of_mem_front normal digit)
    · rcases List.mem_cons.mp rest with rfl | digit
      · exact .inr rfl
      · exact .inl (isDigit_of_mem_back normal digit)

/-- The plain form of a whole number is digits alone. -/
theorem not_mem_point_of_isWhole (normal : d.IsNormal) (whole : d.IsWhole) :
    '.' ∉ d.positional false := by
  rw [positional_of_isWhole normal whole]
  simp only [Bool.false_eq_true, if_false, List.append_nil, List.mem_append, not_or]
  exact ⟨fun member => absurd ((isDigits_iff.mp normal.digits).2 _ member) (by decide),
    fun member => absurd (isDigit_of_mem_zeros member) (by decide)⟩

/-- Where a whole number shows a fraction, every number has a point. -/
theorem mem_point_positional (d : Decimal) : '.' ∈ d.positional true := by
  simp only [positional]
  split_ifs <;> simp

theorem mem_e_scientific (d : Decimal) : 'e' ∈ d.scientific := by
  simp [scientific]

/-- Only a decimal below one has a single zero before its point. -/
theorem front_eq_zero_iff (normal : d.IsNormal) : d.front = ['0'] ↔ d.exponent < 0 := by
  rw [front]
  split
  · exact iff_of_true rfl ‹_›
  · refine iff_of_false ?_ ‹_›
    intro zero
    obtain ⟨nonempty, -⟩ := isDigits_iff.mp normal.digits
    obtain ⟨c, rest, digits⟩ := List.exists_cons_of_ne_nil nonempty
    rw [digits, List.take_succ_cons] at zero
    obtain ⟨rfl, -⟩ := List.cons.inj zero
    exact normal.first (by rw [digits]; rfl)

/-- Zeros end where the digits of a number begin. -/
theorem zeros_append_inj {n m : Nat} (normal : d.IsNormal) (normal' : d'.IsNormal)
    (same : zeros n ++ d.digits = zeros m ++ d'.digits) : n = m ∧ d.digits = d'.digits := by
  have nulls (n : Nat) : ∀ c ∈ zeros n, (c == '0') = true :=
    fun c member => beq_iff_eq.mpr (List.eq_of_mem_replicate member)
  have edge {x : Decimal} (normal : x.IsNormal) : x.digits.head?.any (· == '0') = false := by
    rw [← Bool.not_eq_true, Option.any_eq_true]
    rintro ⟨c, first, zero⟩
    rw [beq_iff_eq.mp zero] at first
    exact normal.first first
  have lengths := congrArg List.length (congrArg (List.takeWhile (· == '0')) same)
  have digits := congrArg (List.dropWhile (· == '0')) same
  rw [SqlMapper.Text.takeWhile_append_of_edge (nulls n) (edge normal),
    SqlMapper.Text.takeWhile_append_of_edge (nulls m) (edge normal'), zeros, zeros,
    List.length_replicate, List.length_replicate] at lengths
  rw [SqlMapper.Text.dropWhile_append_of_edge (nulls n) (edge normal),
    SqlMapper.Text.dropWhile_append_of_edge (nulls m) (edge normal')] at digits
  exact ⟨lengths, digits⟩

/-- Two decimals with fractions that are written alike are the same. -/
theorem positional_inj (normal : d.IsNormal) (normal' : d'.IsNormal) (fraction : ¬ d.IsWhole)
    (fraction' : ¬ d'.IsWhole) {shows shows' : Bool}
    (same : d.positional shows = d'.positional shows') : d = d' := by
  rw [positional_of_not_isWhole fraction, positional_of_not_isWhole fraction',
    List.append_cons_inj_of_notMem
      (fun member => absurd (isDigit_of_mem_front normal member) (by decide))
      (fun member => absurd (isDigit_of_mem_back normal member) (by decide))] at same
  obtain ⟨fronts, -, backs⟩ := same
  have signs : d.exponent < 0 ↔ d'.exponent < 0 := by
    rw [← front_eq_zero_iff normal, ← front_eq_zero_iff normal', fronts]
  rw [IsWhole] at fraction fraction'
  suffices parts : d.digits = d'.digits ∧ d.exponent = d'.exponent by
    cases d
    cases d'
    exact congrArg₂ Decimal.mk parts.1 parts.2
  by_cases small : d.exponent < 0
  · have small' := signs.mp small
    rw [back, back, if_pos small, if_pos small'] at backs
    obtain ⟨lengths, digits⟩ := zeros_append_inj normal normal' backs
    exact ⟨digits, by omega⟩
  · -- The digits before the point are one more than the exponent.
    have small' := mt signs.mpr small
    rw [front, front, if_neg small, if_neg small'] at fronts
    rw [back, back, if_neg small, if_neg small'] at backs
    have lengths := congrArg List.length fronts
    rw [List.length_take, List.length_take] at lengths
    refine ⟨?_, by omega⟩
    rw [← List.take_append_drop (d.exponent.toNat + 1) d.digits, fronts, backs,
      List.take_append_drop]

/-- The plain form of a decimal is the form of another in JSON texts if they are the
same, have a fraction, and are within the bounds of forms without an exponent. -/
theorem positional_eq_json_iff (normal : d.IsNormal) (normal' : d'.IsNormal) :
    d.positional false
        = (if Style.json.isPositional d'.exponent then d'.positional true else d'.scientific)
      ↔ d = d' ∧ -5 ≤ d.exponent ∧ d.exponent ≤ 15 ∧ ¬ d.IsWhole := by
  have bounds : Style.json.isPositional d'.exponent = true
      ↔ -5 ≤ d'.exponent ∧ d'.exponent ≤ 15 := by
    simp [Style.isPositional, Style.json]
  constructor
  · intro same
    split at same
    · rename_i inside
      have fraction : ¬ d.IsWhole := by
        intro whole
        apply not_mem_point_of_isWhole normal whole
        rw [same]
        exact mem_point_positional d'
      have fraction' : ¬ d'.IsWhole := by
        intro whole
        apply getLast?_positional normal fraction false
        rw [same, positional_of_isWhole normal' whole]
        exact List.getLast?_append_of_ne_nil _ (by decide)
      obtain rfl := positional_inj normal normal' fraction fraction' same
      obtain ⟨least, greatest⟩ := bounds.mp inside
      exact ⟨rfl, least, greatest, fraction⟩
    · rcases isDigit_of_mem_positional normal false (same ▸ mem_e_scientific d') with digit | point
      · exact absurd digit (by decide)
      · exact absurd point (by decide)
  · rintro ⟨rfl, least, greatest, fraction⟩
    rw [if_pos (bounds.mpr ⟨least, greatest⟩), positional_of_not_isWhole fraction,
      positional_of_not_isWhole fraction]

end Decimal

/-! ### Magnitudes -/

theorem magnitudeText_of_ne_zero {f : Format} {units : Nat} (h : units ≠ 0) (style : Style) :
    magnitudeText f style units =
      if style.isPositional (shortest f style.tieUp units).exponent
      then (shortest f style.tieUp units).positional style.fractionOfWhole
      else (shortest f style.tieUp units).scientific := by
  rw [magnitudeText, if_neg h]

/-- In the style of JSON a number shows that it is no integer: it has a point or an exponent. -/
theorem exists_mark_magnitudeText (f : Format) (units : Nat) :
    ∃ c ∈ magnitudeText f Style.json units, c = '.' ∨ c = 'e' := by
  by_cases zero : units = 0
  · rw [magnitudeText, if_pos zero]
    exact ⟨'.', by simp [Style.json], .inl rfl⟩
  · rw [magnitudeText_of_ne_zero zero]
    split
    · exact ⟨'.', Decimal.mem_point_positional _, .inl rfl⟩
    · exact ⟨'e', Decimal.mem_e_scientific _, .inr rfl⟩

end SqlMapper.Number
