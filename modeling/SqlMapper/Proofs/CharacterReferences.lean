/-
Module: SqlMapper.Proofs.CharacterReferences
Purpose: A reference to a character in text denotes this character.
Main exports: IsNumeral, entities, readCode_of_isNumeral, textReference?_decimal,
  textReference?_hexadecimal, textReference?_entity, IsUnbroken
-/
import Mathlib.Data.Nat.Digits.Defs
import Mathlib.Tactic.IntervalCases
import SqlMapper.Markup.Reference

namespace SqlMapper.Markup

open SqlMapper.Number

/-!
A code is read digit by digit, the most significant one first, and its numeral
is made from the last digit up. So the induction is on the code without its last
digit: what is read of the digits in front is multiplied by the base, and the
last digit is added. The bound on codes holds at each of these steps, since a
code is never smaller than what its first digits denote.
-/

/-! ### Numerals -/

/-- Characters are a numeral of a number in a base: zeros may stand in front of
its digits, and its letters may be of either case. -/
def IsNumeral (base : Nat) (digits : List Char) (n : Nat) : Prop :=
  ∃ zeros, digits.map Char.toLower = List.replicate zeros '0' ++ Nat.toDigits base n

theorem IsNumeral.ne_nil {base n : Nat} {digits : List Char} (h : IsNumeral base digits n) :
    digits ≠ [] := by
  obtain ⟨zeros, same⟩ := h
  rintro rfl
  exact Nat.toDigits_ne_nil (List.append_eq_nil_iff.mp same.symm).2

theorem digitValue?_digitChar {base d : Nat} (hbase : base ≤ 16) (hd : d < base) :
    digitValue? base (Nat.digitChar d) = some d := by
  have hd' : d < 16 := by omega
  interval_cases d <;> simp [digitValue?, Nat.digitChar, hd]

theorem digitValue?_toLower (base : Nat) (c : Char) :
    digitValue? base c.toLower = digitValue? base c := by
  have upper : ∀ n, 65 ≤ n → n ≤ 90 →
      digitValue? base (Char.ofNat n).toLower = digitValue? base (Char.ofNat n) := by
    intro n low high
    interval_cases n <;> rfl
  by_cases h : 65 ≤ c.toNat ∧ c.toNat ≤ 90
  · rw [← Char.ofNat_toNat c]
    exact upper c.toNat h.1 h.2
  · have same : c.toLower = c := by
      refine dif_neg fun letter => h ?_
      simpa [UInt32.le_iff_toNat_le, ← Char.toNat_val] using letter
    rw [same]

/-! ### Reading a code -/

theorem readCode_map_toLower (base value : Nat) (digits : List Char) :
    readCode base value (digits.map Char.toLower) = readCode base value digits := by
  induction digits generalizing value with
  | nil => rfl
  | cons c rest ih => simp only [List.map_cons, readCode, digitValue?_toLower, ih]

theorem readCode_cons {base value d : Nat} {c : Char} (hd : digitValue? base c = some d)
    (small : base * value + d < 2 ^ 32) (rest : List Char) :
    readCode base value (c :: rest) = readCode base (base * value + d) rest := by
  have bound : base * value + d < Nat.pow 2 32 := small
  simp only [readCode, hd, if_pos bound]

theorem readCode_append_of_ok {base value code : Nat} {front : List Char}
    (h : readCode base value front = .ok code) (back : List Char) :
    readCode base value (front ++ back) = readCode base code back := by
  induction front generalizing value with
  | nil =>
    cases h
    rfl
  | cons c rest ih =>
    rw [List.cons_append]
    cases hd : digitValue? base c with
    | none => simp [readCode, hd] at h
    | some d =>
      simp only [readCode, hd] at h ⊢
      split at h
      · rename_i small
        rw [if_pos small, ih h]
      · cases h

/-- Every character of a code that can be read is a digit. -/
theorem isSome_digitValue?_of_readCode {base value code : Nat} {digits : List Char}
    (h : readCode base value digits = .ok code) :
    ∀ c ∈ digits, (digitValue? base c).isSome = true := by
  induction digits generalizing value with
  | nil => nofun
  | cons c rest ih =>
    unfold readCode at h
    cases hd : digitValue? base c with
    | none => simp [hd] at h
    | some d =>
      simp only [hd] at h
      split at h
      · exact List.forall_mem_cons.mpr ⟨by rw [hd]; rfl, ih h⟩
      · cases h

theorem readCode_zeros {base : Nat} (hbase : 1 < base ∧ base ≤ 16) (zeros : Nat) :
    readCode base 0 (List.replicate zeros '0') = .ok 0 := by
  have zero : digitValue? base '0' = some 0 :=
    digitValue?_digitChar (d := 0) hbase.2 (by omega)
  induction zeros with
  | zero => rfl
  | succ zeros ih => rw [List.replicate_succ, readCode_cons zero (by omega), Nat.mul_zero, ih]

theorem readCode_toDigits {base n : Nat} (hbase : 1 < base ∧ base ≤ 16) (small : n < 2 ^ 32) :
    readCode base 0 (Nat.toDigits base n) = .ok n := by
  induction n using Nat.strong_induction_on with
  | _ n ih =>
    rw [Nat.toDigits_eq_if hbase.1]
    split
    · rename_i single
      rw [readCode_cons (digitValue?_digitChar hbase.2 single) (by omega), Nat.mul_zero,
        Nat.zero_add, readCode]
    · rename_i several
      have shorter : n / base < n := Nat.div_lt_self (by omega) hbase.1
      have last : n % base < base := Nat.mod_lt n (by omega)
      have whole : base * (n / base) + n % base = n := Nat.div_add_mod n base
      rw [readCode_append_of_ok (ih (n / base) shorter (by omega)),
        readCode_cons (digitValue?_digitChar hbase.2 last) (by omega), whole, readCode]

/-- A numeral is read as its number, if this fits. -/
theorem readCode_of_isNumeral {base n : Nat} {digits : List Char} (hbase : 1 < base ∧ base ≤ 16)
    (small : n < 2 ^ 32) (h : IsNumeral base digits n) : readCode base 0 digits = .ok n := by
  obtain ⟨zeros, same⟩ := h
  rw [← readCode_map_toLower, same, readCode_append_of_ok (readCode_zeros hbase zeros),
    readCode_toDigits hbase small]

/-! ### References -/

theorem toNat_lt (c : Char) : c.toNat < 2 ^ 32 := c.val.toNat_lt

theorem characterOfCode?_toNat (c : Char) : characterOfCode? c.toNat = some c := by
  have valid : c.toNat.isValidChar := c.valid
  rw [characterOfCode?, if_pos valid, Char.ofNat_toNat]

theorem textCharacter?_of_readCode {number digits : List Char} {base code : Nat}
    (split : splitBase ['x', 'X'] number = (base, digits)) (nonempty : digits ≠ [])
    (read : readCode base 0 digits = .ok code) :
    textCharacter? number = characterOfCode? code := by
  obtain ⟨c, rest, rfl⟩ := List.exists_cons_of_ne_nil nonempty
  have unsigned : c ≠ '+' := by
    rintro rfl
    cases isSome_digitValue?_of_readCode read '+' List.mem_cons_self
  simp [textCharacter?, split, unsigned, read]

theorem predefined?_number (number : List Char) : predefined? ('#' :: number) = none := by
  simp [predefined?]

theorem textReference?_decimal {digits : List Char} {c : Char}
    (h : IsNumeral 10 digits c.toNat) : textReference? ('#' :: digits) = some [c] := by
  have read := readCode_of_isNumeral (by decide) (toNat_lt c) h
  have split : splitBase ['x', 'X'] digits = (10, digits) := by
    cases digits with
    | nil => rfl
    | cons d rest =>
      have unmarked : d ∉ ['x', 'X'] := by
        intro mark
        have digit := isSome_digitValue?_of_readCode read d List.mem_cons_self
        simp only [List.mem_cons, List.not_mem_nil, or_false] at mark
        rcases mark with rfl | rfl <;> cases digit
      rw [splitBase, if_neg unmarked]
  rw [textReference?, predefined?_number]
  simp [textCharacter?_of_readCode split h.ne_nil read, characterOfCode?_toNat]

theorem textReference?_hexadecimal {digits : List Char} {c : Char}
    (h : IsNumeral 16 digits c.toNat) : textReference? ('#' :: 'x' :: digits) = some [c] := by
  have read := readCode_of_isNumeral (by decide) (toNat_lt c) h
  have split : splitBase ['x', 'X'] ('x' :: digits) = (16, digits) := rfl
  rw [textReference?, predefined?_number]
  simp [textCharacter?_of_readCode split h.ne_nil read, characterOfCode?_toNat]

/-- The predefined entities with their characters. -/
def entities : List (String × Char) :=
  [("lt", '<'), ("gt", '>'), ("amp", '&'), ("apos", '\''), ("quot", '"')]

theorem textReference?_entity {name : String} {c : Char} (h : (name, c) ∈ entities) :
    textReference? name.toList = some [c] := by
  simp only [entities, List.mem_cons, List.not_mem_nil, or_false, Prod.mk.injEq] at h
  rcases h with ⟨rfl, rfl⟩ | ⟨rfl, rfl⟩ | ⟨rfl, rfl⟩ | ⟨rfl, rfl⟩ | ⟨rfl, rfl⟩ <;> rfl

/-! ### Where a reference ends -/

/-- Characters that a reference can hold: none of them ends it, and none makes
it one that is not closed. -/
def IsUnbroken (reference : List Char) : Prop :=
  ∀ c ∈ reference, c ≠ ';' ∧ c ≠ '&' ∧ c ≠ '<'

theorem isUnbroken_of_isNumeral {base n : Nat} {digits : List Char}
    (hbase : 1 < base ∧ base ≤ 16) (small : n < 2 ^ 32) (h : IsNumeral base digits n) :
    IsUnbroken digits := by
  intro c hc
  have digit := isSome_digitValue?_of_readCode (readCode_of_isNumeral hbase small h) c hc
  refine ⟨?_, ?_, ?_⟩ <;> rintro rfl <;> cases digit

theorem isUnbroken_decimal {digits : List Char} {c : Char} (h : IsNumeral 10 digits c.toNat) :
    IsUnbroken ('#' :: digits) :=
  List.forall_mem_cons.mpr ⟨by decide, isUnbroken_of_isNumeral (by decide) (toNat_lt c) h⟩

theorem isUnbroken_hexadecimal {digits : List Char} {c : Char}
    (h : IsNumeral 16 digits c.toNat) : IsUnbroken ('#' :: 'x' :: digits) :=
  List.forall_mem_cons.mpr ⟨by decide, List.forall_mem_cons.mpr
    ⟨by decide, isUnbroken_of_isNumeral (by decide) (toNat_lt c) h⟩⟩

theorem isUnbroken_entity {name : String} {c : Char} (h : (name, c) ∈ entities) :
    IsUnbroken name.toList := by
  simp only [entities, List.mem_cons, List.not_mem_nil, or_false, Prod.mk.injEq] at h
  rcases h with ⟨rfl, -⟩ | ⟨rfl, -⟩ | ⟨rfl, -⟩ | ⟨rfl, -⟩ | ⟨rfl, -⟩ <;> simp [IsUnbroken]

end SqlMapper.Markup
