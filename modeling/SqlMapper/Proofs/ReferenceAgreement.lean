/-
Module: SqlMapper.Proofs.ReferenceAgreement
Purpose: Which references to characters stand for the same in text and in attribute values.
Main exports: characterReference, IsStrict, toOption_valueCharacter, isUnadorned_of_valueCharacter,
  unescapeValue_characterReference, references_agree
-/
import SqlMapper.Proofs.CharacterReferences
import SqlMapper.Proofs.WrittenValues

namespace SqlMapper.Markup

open SqlMapper.Number

/-!
References in text and in attribute values are resolved apart from each other.
Both know an `x` in front of the digits as the mark of the base, and both refuse
what is no digit, a code of more than 32 bits and a code of no character. Text
lets more pass, such as an `X` for the mark. So whatever an attribute value
takes stands for the same in text, and the other way round this is so for
numbers that take no liberty.
-/

/-- What is written for the character with a number. -/
def characterReference (number : List Char) : List Char := '&' :: '#' :: (number ++ [';'])

/-- Nothing but the mark of the base, in lower case, stands before the digits of a number. -/
structure IsUnadorned (number : List Char) : Prop where
  marked : ∀ digits, number ≠ 'X' :: digits
  unsigned : ∀ digits, number ≠ '+' :: digits ∧ number ≠ 'x' :: '+' :: digits

/-- A number that is written without any of the liberties there are in text: a
mark of the base in upper case, a sign, and the code zero. -/
structure IsStrict (number : List Char) : Prop extends IsUnadorned number where
  nonzero : textCharacter? number ≠ some '\x00'

/-! ### Numbers -/

theorem splitBase_of_marked {number : List Char} (marked : ∀ digits, number ≠ 'X' :: digits) :
    splitBase ['x', 'X'] number = splitBase ['x'] number := by
  cases number with
  | nil => rfl
  | cons c rest =>
    have notUpper : c ≠ 'X' := by
      rintro rfl
      exact marked rest rfl
    simp only [splitBase, List.mem_cons, notUpper, List.not_mem_nil, or_false]

theorem IsUnadorned.digits_ne {number : List Char} (h : IsUnadorned number) (rest : List Char) :
    (splitBase ['x'] number).2 ≠ '+' :: rest := by
  cases number with
  | nil => nofun
  | cons c digits =>
    by_cases mark : c = 'x'
    · subst mark
      rintro rfl
      exact (h.unsigned rest).2 rfl
    · rw [splitBase, if_neg (by simpa using mark)]
      exact (h.unsigned rest).1

theorem eq_zero_of_characterOfCode? {code : Nat} (h : characterOfCode? code = some '\x00') :
    code = 0 := by
  rw [characterOfCode?, Option.ite_none_right_eq_some, Option.some.injEq] at h
  obtain ⟨valid, same⟩ := h
  have back : (Char.ofNat code).toNat = code := by
    delta Char.ofNat
    rw [dif_pos valid]
    rfl
  rw [← back, same]
  rfl

/-- Of a number without adornment an attribute value takes what text takes, but
for the character with the code zero. -/
theorem toOption_valueCharacter {number : List Char} (h : IsUnadorned number) :
    (valueCharacter number).toOption = (textCharacter? number).filter (· ≠ '\x00') := by
  have unsigned := h.digits_ne
  unfold valueCharacter textCharacter?
  rw [splitBase_of_marked h.marked]
  generalize splitBase ['x'] number = parts at unsigned ⊢
  obtain ⟨base, digits⟩ := parts
  cases digits with
  | nil => rfl
  | cons c rest =>
    have notPlus : c ≠ '+' := by
      rintro rfl
      exact unsigned rest rfl
    by_cases minus : c = '-'
    · subst minus
      rfl
    · cases read : readCode base 0 (c :: rest) with
      | error fault => simp [minus, read, Except.toOption]
      | ok code =>
        by_cases zero : code = 0
        · have nul : characterOfCode? 0 = some '\x00' := by decide
          simp [minus, read, zero, nul, Option.filter, Except.toOption]
        · cases found : characterOfCode? code with
          | none => simp [minus, read, zero, found, Except.toOption]
          | some d =>
            have notNul : d ≠ '\x00' := by
              rintro rfl
              exact zero (eq_zero_of_characterOfCode? found)
            simp [minus, read, zero, found, notNul, Option.filter, Except.toOption]

/-- What an attribute value takes has no adornment. -/
theorem isUnadorned_of_valueCharacter {number : List Char} {c : Char}
    (h : valueCharacter number = .ok c) : IsUnadorned number := by
  refine ⟨?_, fun digits => ⟨?_, ?_⟩⟩
  · rintro digits rfl
    exact nomatch h
  · rintro rfl
    exact nomatch h
  · rintro rfl
    exact nomatch h

/-! ### References -/

/-- An attribute value that is one reference is the character of its number. -/
theorem unescapeValue_characterReference {number : List Char} (unbroken : IsUnbroken number) :
    (unescapeValue (characterReference number)).toOption
      = (valueCharacter number).toOption.map ([·]) := by
  have inside : ∀ length, ∀ c ∈ '#' :: number, ∀ place name,
      ValueScan.step length ⟨place, [], some (0, name)⟩ c
        = .ok ⟨place + c.utf8Size, [], some (0, c :: name)⟩ := by
    intro length c member place name
    have ordinary : c ≠ ';' ∧ c ≠ '&' := by
      rcases List.mem_cons.mp member with rfl | member
      · decide
      · exact ⟨(unbroken c member).1, (unbroken c member).2.1⟩
    simp only [ValueScan.step, if_neg ordinary.1, if_neg ordinary.2]
  have opening (length : Nat) : ValueScan.step length ValueScan.start '&'
      = .ok ⟨'&'.utf8Size, [], some (0, [])⟩ := rfl
  have content (length : Nat) := foldlM_through
    (fun place name => ValueScan.mk place [] (some (0, name))) (inside length) '&'.utf8Size []
  have last (length place : Nat) :
      ValueScan.step length ⟨place, [], some (0, ('#' :: number).reverse ++ [])⟩ ';'
        = ((valueCharacter number).map fun c => ⟨place + ';'.utf8Size, [c], none⟩).mapError
          .number := by
    simp only [ValueScan.step, if_true, List.append_nil, List.reverse_reverse, valueReference]
    cases valueCharacter number <;> rfl
  simp only [unescapeValue, characterReference]
  rw [foldlM_cons_of_ok (opening _), ← List.cons_append, foldlM_append_of_ok (content _),
    List.foldlM_cons, last]
  cases valueCharacter number <;> rfl

/-- A reference in text is the character of its number. -/
theorem textReference?_number (number : List Char) :
    textReference? ('#' :: number) = (textCharacter? number).map ([·]) := by
  rw [textReference?, predefined?_number]

/-- In text an `X` marks the base as an `x` does. -/
theorem textCharacter?_upper (digits : List Char) :
    textCharacter? ('X' :: digits) = textCharacter? ('x' :: digits) := rfl

/-- A reference to a character that an attribute value takes is the same in text.
Written strictly it is the same in both, or a fault in both. In text an `X`
marks hexadecimal digits like an `x`; in an attribute value it is a fault. -/
theorem references_agree {number : List Char} (unbroken : IsUnbroken number) :
    (∀ cs, unescapeValue (characterReference number) = .ok cs →
        textReference? ('#' :: number) = some cs)
      ∧ (IsStrict number →
        textReference? ('#' :: number) = (unescapeValue (characterReference number)).toOption)
      ∧ ∀ digits, number = 'X' :: digits →
        textReference? ('#' :: number) = textReference? ('#' :: 'x' :: digits)
          ∧ ∃ fault, unescapeValue (characterReference number) = .error fault := by
  have inValue := unescapeValue_characterReference unbroken
  rw [textReference?_number]
  refine ⟨fun cs taken => ?_, fun strict => ?_, ?_⟩
  · rw [taken] at inValue
    obtain ⟨c, value, rfl⟩ := Option.map_eq_some_iff.mp inValue.symm
    cases character : valueCharacter number with
    | error fault =>
      rw [character] at value
      cases value
    | ok d =>
      have unadorned := isUnadorned_of_valueCharacter character
      rw [toOption_valueCharacter unadorned, Option.filter_eq_some_iff] at value
      rw [value.1, Option.map_some]
  · have all : (textCharacter? number).filter (· ≠ '\x00') = textCharacter? number := by
      cases character : textCharacter? number with
      | none => rfl
      | some c =>
        have notNul : c ≠ '\x00' := by
          rintro rfl
          exact strict.nonzero character
        simp [Option.filter, notNul]
    rw [inValue, toOption_valueCharacter strict.toIsUnadorned, all]
  · rintro digits rfl
    have refused : valueCharacter ('X' :: digits) = .error .digit := rfl
    rw [refused] at inValue
    refine ⟨by rw [textCharacter?_upper, textReference?_number], ?_⟩
    cases value : unescapeValue (characterReference ('X' :: digits)) with
    | error fault => exact ⟨fault, rfl⟩
    | ok cs =>
      rw [value] at inValue
      cases inValue

/-- A code beyond the first plane, with zeros in front and letters of either case. -/
theorem references_agree_astral :
    IsUnbroken "x0001f60A".toList ∧ IsStrict "x0001f60A".toList
      ∧ textReference? "#x0001f60A".toList = some ['😊']
      ∧ (unescapeValue "&#x0001f60A;".toList).toOption = some ['😊'] := by
  have character : textCharacter? "x0001f60A".toList = some '😊' := by rfl
  have unbroken : IsUnbroken "x0001f60A".toList := by simp [IsUnbroken]
  have strict : IsStrict "x0001f60A".toList := by
    refine ⟨⟨by simp, by simp⟩, ?_⟩
    rw [character]
    decide
  have inText : textReference? "#x0001f60A".toList = some ['😊'] := by rfl
  exact ⟨unbroken, strict, inText, ((references_agree unbroken).2.1 strict).symm.trans inText⟩

/-- References that are the same in text and in attribute values, or a fault in
both, have to be written strictly: one with an `X` is a character in text only. -/
theorem references_disagree_upper :
    IsUnbroken "X41".toList
      ∧ textReference? "#X41".toList = some ['A']
      ∧ unescapeValue "&#X41;".toList = .error (.number .digit) := by
  have unbroken : IsUnbroken "X41".toList := by simp [IsUnbroken]
  exact ⟨unbroken, by rfl, by rfl⟩

end SqlMapper.Markup
