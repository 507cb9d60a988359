/-
Module: SqlMapper.Proofs.NumberText
Purpose: The texts that are numbers, and those that are not a number by name.
Main exports: IsSign, IsDecimal, IsExponent, IsNumberText, IsNanText,
  exists_readBinary?_iff, readBinary?_eq_nan_iff, readBinary?_of_isDigits
-/
import Mathlib.Data.List.TakeDrop
import SqlMapper.Number.Numeral
import SqlMapper.Proofs.Spans

namespace SqlMapper.Number

open SqlMapper.Text

/-!
A number is written with an optional sign: one of three words in any case of
letters, or digits with at most one point before, among or behind them, and an
optional power of ten. Every such text has a value, and no other has one. The
only text without a place in the order of numbers is the word `nan`.
-/

/-! ### The form of numbers -/

/-- A sign, or nothing. -/
inductive IsSign : List Char → Prop where
  | none : IsSign []
  | plus : IsSign ['+']
  | minus : IsSign ['-']

/-- Decimal digits, at least one, with at most one point. -/
inductive IsDecimal : List Char → Prop where
  | whole {digits : List Char} (h : isDigits digits = true) : IsDecimal digits
  | pointed {whole fraction : List Char} (h : isDigits (whole ++ fraction) = true) :
      IsDecimal (whole ++ '.' :: fraction)

/-- A power of ten, or nothing. -/
inductive IsExponent : List Char → Prop where
  | none : IsExponent []
  | power {letter : Char} {sign digits : List Char} (marked : letter = 'e' ∨ letter = 'E')
      (signed : IsSign sign) (h : isDigits digits = true) : IsExponent (letter :: (sign ++ digits))

/-- The words that are numbers. -/
def numberWords : List (List Char) := ["nan".toList, "inf".toList, "infinity".toList]

/-- A number as it is written. -/
inductive IsNumberText : List Char → Prop where
  | word {sign word : List Char} (signed : IsSign sign)
      (known : word.map Char.toLower ∈ numberWords) : IsNumberText (sign ++ word)
  | numeral {sign decimal exponent : List Char} (signed : IsSign sign)
      (digits : IsDecimal decimal) (power : IsExponent exponent) :
      IsNumberText (sign ++ (decimal ++ exponent))

/-- The word for what is no number, with an optional sign. -/
inductive IsNanText : List Char → Prop where
  | word {sign word : List Char} (signed : IsSign sign)
      (named : word.map Char.toLower = "nan".toList) : IsNanText (sign ++ word)

theorem isDigits_iff {cs : List Char} :
    isDigits cs = true ↔ cs ≠ [] ∧ ∀ c ∈ cs, c.isDigit = true := by
  simp [isDigits]

/-! ### Signs -/

/-- A character that is a sign. -/
def isSignCharacter (c : Char) : Bool := c == '+' || c == '-'

namespace Numeral

theorem exists_readSign (cs : List Char) : ∃ sign, IsSign sign ∧ cs = sign ++ (readSign cs).2 := by
  unfold readSign
  split
  · exact ⟨['-'], .minus, rfl⟩
  · exact ⟨['+'], .plus, rfl⟩
  · exact ⟨[], .none, rfl⟩

theorem readSign_append {sign rest : List Char} (signed : IsSign sign)
    (edge : rest.head?.any isSignCharacter = false) : (readSign (sign ++ rest)).2 = rest := by
  cases signed with
  | plus => rfl
  | minus => rfl
  | none =>
    rw [List.nil_append, readSign.eq_def]
    split
    · cases edge
    · cases edge
    · rfl

/-! ### Numerals -/

theorem not_isSignCharacter_of_isDigit {c : Char} (h : c.isDigit = true) :
    isSignCharacter c = false := by
  by_contra sign
  simp only [isSignCharacter, Bool.not_eq_false, Bool.or_eq_true, beq_iff_eq] at sign
  rcases sign with rfl | rfl <;> cases h

theorem head?_any_sign_of_isDigits {cs : List Char} (h : isDigits cs = true) (rest : List Char) :
    (cs ++ rest).head?.any isSignCharacter = false := by
  obtain ⟨nonempty, digits⟩ := isDigits_iff.mp h
  cases cs with
  | nil => exact absurd rfl nonempty
  | cons c cs => exact not_isSignCharacter_of_isDigit (digits c List.mem_cons_self)

theorem head?_any_sign_of_isDecimal {cs : List Char} (digits : IsDecimal cs) (rest : List Char) :
    (cs ++ rest).head?.any isSignCharacter = false := by
  cases digits with
  | whole h => exact head?_any_sign_of_isDigits h rest
  | @pointed whole fraction h =>
    cases whole with
    | nil => rfl
    | cons c whole => exact head?_any_sign_of_isDigits h rest

theorem exists_readExponent?_iff {cs : List Char} :
    (∃ exponent, readExponent? cs = some exponent) ↔ IsExponent cs := by
  constructor
  · rintro ⟨exponent, read⟩
    cases cs with
    | nil => exact .none
    | cons c rest =>
      rw [readExponent?] at read
      split at read
      · rename_i marked
        obtain ⟨sign, signed, whole⟩ := exists_readSign rest
        by_cases digits : isDigits (readSign rest).2 = true
        · rw [whole]
          exact .power marked signed digits
        · simp [digits] at read
      · cases read
  · intro power
    cases power with
    | none => exact ⟨0, rfl⟩
    | @power letter sign digits marked signed h =>
      have edge := head?_any_sign_of_isDigits h []
      rw [List.append_nil] at edge
      simp [readExponent?, marked, readSign_append signed edge, h]

theorem head?_any_of_isExponent {p : Char → Bool} (lower : p 'e' = false) (upper : p 'E' = false)
    {cs : List Char} (power : IsExponent cs) : cs.head?.any p = false := by
  cases power with
  | none => rfl
  | power marked signed digits =>
    rcases marked with rfl | rfl
    · exact lower
    · exact upper

theorem span_append_of_edge {p : Char → Bool} {front back : List Char}
    (inside : ∀ c ∈ front, p c = true) (edge : back.head?.any p = false) :
    (front ++ back).span p = (front, back) := by
  rw [List.span_eq_takeWhile_dropWhile, takeWhile_append_of_edge inside edge,
    dropWhile_append_of_edge inside edge]

theorem readFraction_cases (cs : List Char) :
    readFraction cs = ([], cs)
      ∨ ∃ rest, cs = '.' :: rest ∧ readFraction cs = rest.span Char.isDigit := by
  rw [readFraction.eq_def]
  split
  · exact .inr ⟨_, rfl, rfl⟩
  · exact .inl rfl

theorem readFraction_of_edge {cs : List Char} (edge : cs.head?.any (· == '.') = false) :
    readFraction cs = ([], cs) := by
  rcases readFraction_cases cs with bare | ⟨rest, rfl, -⟩
  · exact bare
  · cases edge

theorem read?_of_span {cs whole behind fraction rest : List Char}
    (first : cs.span Char.isDigit = (whole, behind))
    (second : readFraction behind = (fraction, rest)) :
    read? cs = if whole ++ fraction = [] then none
      else (readExponent? rest).map fun exponent =>
        ⟨digitsValue (whole ++ fraction), (whole ++ fraction).length,
          exponent - fraction.length⟩ := by
  simp only [read?, first, second, List.isEmpty_iff]

/-- Some digit before or behind the point is enough, and nothing but a power of ten
may follow. -/
theorem exists_read?_iff_of_span {cs whole behind fraction rest : List Char}
    (first : cs.span Char.isDigit = (whole, behind))
    (second : readFraction behind = (fraction, rest)) :
    (∃ n, read? cs = some n) ↔ whole ++ fraction ≠ [] ∧ IsExponent rest := by
  rw [read?_of_span first second, ← exists_readExponent?_iff]
  by_cases empty : whole ++ fraction = []
  · rw [if_pos empty]
    exact iff_of_false nofun fun h => h.1 empty
  · rw [if_neg empty, and_iff_right empty]
    cases readExponent? rest <;> simp

theorem exists_decimal_of_read? {cs : List Char} (read : ∃ n, read? cs = some n) :
    ∃ decimal exponent, IsDecimal decimal ∧ IsExponent exponent ∧ cs = decimal ++ exponent := by
  obtain ⟨whole, behind, front, edge, rfl, -, -⟩ := exists_span Char.isDigit cs
  have first := span_append_of_edge front edge
  rcases readFraction_cases behind with bare | ⟨rest, rfl, pointed⟩
  · obtain ⟨nonempty, power⟩ := (exists_read?_iff_of_span first bare).mp read
    rw [List.append_nil] at nonempty
    exact ⟨whole, behind, .whole (isDigits_iff.mpr ⟨nonempty, front⟩), power, rfl⟩
  · obtain ⟨fraction, exponent, back, edge', rfl, -, -⟩ := exists_span Char.isDigit rest
    rw [span_append_of_edge back edge'] at pointed
    obtain ⟨nonempty, power⟩ := (exists_read?_iff_of_span first pointed).mp read
    have digits : ∀ c ∈ whole ++ fraction, c.isDigit = true :=
      fun c member => (List.mem_append.mp member).elim (front c) (back c)
    refine ⟨whole ++ '.' :: fraction, exponent, .pointed (isDigits_iff.mpr ⟨nonempty, digits⟩),
      power, ?_⟩
    rw [List.append_assoc, List.cons_append]

theorem exists_read?_of_decimal {decimal exponent : List Char} (digits : IsDecimal decimal)
    (power : IsExponent exponent) : ∃ n, read? (decimal ++ exponent) = some n := by
  have edge : exponent.head?.any Char.isDigit = false := head?_any_of_isExponent rfl rfl power
  cases digits with
  | whole h =>
    obtain ⟨nonempty, inside⟩ := isDigits_iff.mp h
    have noPoint : exponent.head?.any (· == '.') = false := head?_any_of_isExponent rfl rfl power
    rw [exists_read?_iff_of_span (span_append_of_edge inside edge) (readFraction_of_edge noPoint),
      List.append_nil]
    exact ⟨nonempty, power⟩
  | @pointed whole fraction h =>
    obtain ⟨nonempty, inside⟩ := isDigits_iff.mp h
    have front : ∀ c ∈ whole, c.isDigit = true :=
      fun c member => inside c (List.mem_append_left fraction member)
    have back : ∀ c ∈ fraction, c.isDigit = true :=
      fun c member => inside c (List.mem_append_right whole member)
    have point : ('.' :: (fraction ++ exponent)).head?.any Char.isDigit = false := rfl
    rw [List.append_assoc, List.cons_append,
      exists_read?_iff_of_span (span_append_of_edge front point) (span_append_of_edge back edge)]
    exact ⟨nonempty, power⟩

theorem value_ne_nan {f : Format} (negative : Bool) (n : Numeral) :
    (n.value negative : Binary f) ≠ .nan := by
  have rounded (numerator denominator : Nat) :
      (Binary.ofRatio negative numerator denominator : Binary f) ≠ .nan := by
    rw [Binary.ofRatio, Binary.ofUnits]
    split <;> nofun
  rw [value]
  split_ifs
  · nofun
  · nofun
  · nofun
  · exact rounded _ _
  · exact rounded _ _

end Numeral

/-! ### Numbers -/

theorem toLower_of_isSignCharacter {c : Char} (h : isSignCharacter c = true) : c.toLower = c := by
  simp only [isSignCharacter, Bool.or_eq_true, beq_iff_eq] at h
  rcases h with rfl | rfl <;> rfl

theorem head?_any_sign_of_word {word : List Char} (known : word.map Char.toLower ∈ numberWords) :
    word.head?.any isSignCharacter = false := by
  have letters : ∀ w ∈ numberWords, w.head?.any isSignCharacter = false := by decide
  cases word with
  | nil => rfl
  | cons c word =>
    by_contra sign
    have sign : isSignCharacter c = true := by simpa using sign
    have letter := letters _ known
    rw [List.map_cons, toLower_of_isSignCharacter sign] at letter
    exact absurd sign (by simpa using letter)

/-- Behind the sign stands a word or a numeral. -/
theorem readBinary?_eq (f : Format) (cs : List Char) :
    readBinary? f cs =
      if (Numeral.readSign cs).2.map Char.toLower = "nan".toList then some .nan
      else if (Numeral.readSign cs).2.map Char.toLower = "inf".toList
          ∨ (Numeral.readSign cs).2.map Char.toLower = "infinity".toList
        then some (.infinite (Numeral.readSign cs).1)
      else (Numeral.read? (Numeral.readSign cs).2).map (Numeral.value (Numeral.readSign cs).1) :=
  rfl

/-- A text has a value exactly if it has the form of a number. -/
theorem exists_readBinary?_iff {f : Format} {cs : List Char} :
    (∃ x, readBinary? f cs = some x) ↔ IsNumberText cs := by
  constructor
  · rintro ⟨x, read⟩
    obtain ⟨sign, signed, whole⟩ := Numeral.exists_readSign cs
    rw [readBinary?_eq] at read
    rw [whole]
    split_ifs at read with nan infinite
    · exact .word signed (by simp [numberWords, nan])
    · exact .word signed (by rcases infinite with h | h <;> simp [numberWords, h])
    · obtain ⟨n, numeral, -⟩ := Option.map_eq_some_iff.mp read
      obtain ⟨decimal, exponent, digits, power, parts⟩ :=
        Numeral.exists_decimal_of_read? ⟨n, numeral⟩
      rw [parts]
      exact .numeral signed digits power
  · intro number
    rw [readBinary?_eq]
    cases number with
    | word signed known =>
      rw [Numeral.readSign_append signed (head?_any_sign_of_word known)]
      simp only [numberWords, List.mem_cons, List.not_mem_nil, or_false] at known
      rcases known with nan | infinite
      · rw [if_pos nan]
        exact ⟨_, rfl⟩
      · split_ifs
        · exact ⟨_, rfl⟩
        · exact ⟨_, rfl⟩
    | @numeral sign decimal exponent signed digits power =>
      rw [Numeral.readSign_append signed (Numeral.head?_any_sign_of_isDecimal digits exponent)]
      obtain ⟨n, numeral⟩ := Numeral.exists_read?_of_decimal digits power
      rw [numeral]
      split_ifs
      · exact ⟨_, rfl⟩
      · exact ⟨_, rfl⟩
      · exact ⟨_, rfl⟩

theorem readBinary?_eq_none_iff {f : Format} {cs : List Char} :
    readBinary? f cs = none ↔ ¬ IsNumberText cs := by
  rw [← exists_readBinary?_iff (f := f), Option.eq_none_iff_forall_ne_some, not_exists]

/-- Only the word `nan` has no place in the order of numbers. -/
theorem readBinary?_eq_nan_iff {f : Format} {cs : List Char} :
    readBinary? f cs = some .nan ↔ IsNanText cs := by
  constructor
  · intro read
    obtain ⟨sign, signed, whole⟩ := Numeral.exists_readSign cs
    rw [readBinary?_eq] at read
    split_ifs at read with nan infinite
    · rw [whole]
      exact .word signed nan
    · cases read
    · obtain ⟨n, -, value⟩ := Option.map_eq_some_iff.mp read
      exact absurd value (Numeral.value_ne_nan _ n)
  · rintro ⟨signed, named⟩
    have edge := head?_any_sign_of_word (by rw [named]; exact List.mem_cons_self)
    rw [readBinary?_eq, Numeral.readSign_append signed edge, if_pos named]

/-! ### Digits alone -/

theorem toLower_of_isDigit {c : Char} (h : c.isDigit = true) : c.toLower = c := by
  simp only [Char.isDigit, Bool.and_eq_true, decide_eq_true_eq] at h
  have small : ¬ (c.val ≥ 'A'.val ∧ c.val ≤ 'Z'.val) := by
    intro upper
    exact absurd (UInt32.le_trans upper.1 h.2) (by decide)
  exact dif_neg small

/-- A word of letters does not start with a digit. -/
theorem map_toLower_ne_of_isDigits {cs : List Char} (h : isDigits cs = true)
    (letters : List Char) (word : letters.head?.any Char.isDigit = false) :
    cs.map Char.toLower ≠ letters := by
  rintro rfl
  obtain ⟨nonempty, digits⟩ := isDigits_iff.mp h
  cases cs with
  | nil => exact nonempty rfl
  | cons c rest =>
    have first := digits c List.mem_cons_self
    rw [List.map_cons, List.head?_cons, Option.any_some, toLower_of_isDigit first, first] at word
    cases word

theorem readSign_of_isDigits {cs : List Char} (h : isDigits cs = true) :
    Numeral.readSign cs = (false, cs) := by
  rw [Numeral.readSign.eq_def]
  split
  · simp [isDigits] at h
  · simp [isDigits] at h
  · rfl

/-- Digits alone are a numeral without a fraction and without an exponent. -/
theorem read?_of_isDigits {cs : List Char} (h : isDigits cs = true) :
    Numeral.read? cs = some ⟨digitsValue cs, cs.length, 0⟩ := by
  obtain ⟨nonempty, digits⟩ := isDigits_iff.mp h
  have first := Numeral.span_append_of_edge digits (show [].head?.any Char.isDigit = false from rfl)
  rw [List.append_nil] at first
  rw [Numeral.read?_of_span first rfl, List.append_nil, if_neg nonempty]
  rfl

/-- A text of digits alone is a number, whatever the format. -/
theorem readBinary?_of_isDigits (f : Format) {cs : List Char} (h : isDigits cs = true) :
    readBinary? f cs = some (Numeral.value false ⟨digitsValue cs, cs.length, 0⟩) := by
  have hnan := map_toLower_ne_of_isDigits h "nan".toList rfl
  have hinf := map_toLower_ne_of_isDigits h "inf".toList rfl
  have hinfinity := map_toLower_ne_of_isDigits h "infinity".toList rfl
  simp only [readBinary?_eq, readSign_of_isDigits h, hnan, hinf, hinfinity, or_self, if_false,
    read?_of_isDigits h, Option.map_some]

end SqlMapper.Number
