/-
Module: SqlMapper.Proofs.Words
Purpose: The words of texts that stand side by side, and flattening as the text of words.
Main exports: IsWord, isWord_of_mem_words, words_eq_nil_iff, parted, words_append_of_parted,
  words_intercalate, words_flattenChars, infix_flattenChars, IsFlat, isFlat_flattenChars,
  letters, letters_flattenChars
-/
import SqlMapper.Text.Words

namespace SqlMapper.Text

/-!
Two texts side by side have the words of both, unless the last word of the first
and the first word of the second grow together. Flattening keeps the words, and
so it keeps every part of a text that is flattened already.
-/

/-- A word: one or more characters, none of them blank. -/
def IsWord (w : List Char) : Prop := w ≠ [] ∧ ∀ c ∈ w, isBlank c = false

theorem isWord_iff {w : List Char} :
    IsWord w ↔ (!w.isEmpty && w.all (! isBlank ·)) = true := by
  simp [IsWord]

instance (w : List Char) : Decidable (IsWord w) := decidable_of_iff _ isWord_iff.symm

theorem IsWord.head?_append {w : List Char} (word : IsWord w) (rest : List Char) :
    (w ++ rest).head?.any isBlank = false := by
  cases w with
  | nil => exact absurd rfl word.1
  | cons c w => exact word.2 c List.mem_cons_self

theorem consWord_append (word : List Char) (some more : List (List Char)) :
    consWord word (some ++ more) = consWord word some ++ more := by
  unfold consWord
  split <;> rfl

theorem consWord_of_ne_nil {word : List Char} (h : word ≠ []) (others : List (List Char)) :
    consWord word others = word :: others := by
  cases word with
  | nil => exact absurd rfl h
  | cons c cs => rfl

theorem words_cons_of_not_blank {c : Char} (h : isBlank c = false) (cs : List Char) :
    words (c :: cs) = (c :: (headAndWords cs).1) :: (headAndWords cs).2 := by
  rw [words, headAndWords_cons_of_not_blank h]
  rfl

/-! ### Words -/

theorem headAndWords_isWord (cs : List Char) :
    (∀ c ∈ (headAndWords cs).1, isBlank c = false) ∧ ∀ w ∈ (headAndWords cs).2, IsWord w := by
  induction cs with
  | nil => simp
  | cons c cs ih =>
    obtain ⟨hhead, hothers⟩ := ih
    cases h : isBlank c with
    | true =>
      rw [headAndWords_cons_of_blank h]
      refine ⟨by simp, ?_⟩
      intro w member
      rw [words, consWord] at member
      split at member
      · exact hothers w member
      · rename_i nonempty
        rcases List.mem_cons.mp member with rfl | later
        · exact ⟨by simpa using nonempty, hhead⟩
        · exact hothers w later
    | false =>
      rw [headAndWords_cons_of_not_blank h]
      refine ⟨?_, hothers⟩
      intro x member
      rcases List.mem_cons.mp member with rfl | later
      · exact h
      · exact hhead x later

/-- Every word of a text is a word. -/
theorem isWord_of_mem_words {cs w : List Char} (h : w ∈ words cs) : IsWord w := by
  -- After a blank the words of a text are all that is found.
  have found := (headAndWords_isWord (' ' :: cs)).2
  rw [headAndWords_cons_of_blank (by decide)] at found
  exact found w h

theorem headAndWords_of_not_blank {w : List Char} (h : ∀ c ∈ w, isBlank c = false) :
    headAndWords w = (w, []) := by
  induction w with
  | nil => rfl
  | cons c cs ih =>
    rw [headAndWords_cons_of_not_blank (h c List.mem_cons_self),
      ih fun x member => h x (List.mem_cons_of_mem c member)]

/-- A word is the only word of itself. -/
theorem words_of_isWord {w : List Char} (h : IsWord w) : words w = [w] := by
  rw [words, headAndWords_of_not_blank h.2, consWord_of_ne_nil h.1]

theorem words_append_of_isBlankText {blanks : List Char} (h : isBlankText blanks = true)
    (cs : List Char) : words (blanks ++ cs) = words cs := by
  induction blanks with
  | nil => rfl
  | cons c blanks ih =>
    rw [isBlankText, List.all_cons, Bool.and_eq_true] at h
    rw [List.cons_append, words_cons_of_blank h.1, ih h.2]

/-- The texts without words are those of blanks alone. -/
theorem words_eq_nil_iff {cs : List Char} : words cs = [] ↔ isBlankText cs = true := by
  constructor
  · intro bare
    induction cs with
    | nil => rfl
    | cons c cs ih =>
      cases blank : isBlank c with
      | true =>
        rw [words_cons_of_blank blank] at bare
        rw [isBlankText, List.all_cons, blank]
        exact ih bare
      | false =>
        rw [words_cons_of_not_blank blank] at bare
        cases bare
  · intro blanks
    have whole := words_append_of_isBlankText blanks []
    rwa [List.append_nil, words_nil] at whole

/-! ### Texts side by side -/

theorem headAndWords_append_cons {c : Char} (h : isBlank c = true) (a b : List Char) :
    headAndWords (a ++ c :: b) = ((headAndWords a).1, (headAndWords a).2 ++ words b) := by
  induction a with
  | nil => rw [List.nil_append, headAndWords_cons_of_blank h]; rfl
  | cons x a ih =>
    cases hx : isBlank x with
    | true =>
      rw [List.cons_append, headAndWords_cons_of_blank hx, headAndWords_cons_of_blank hx, words,
        ih, consWord_append]
      rfl
    | false =>
      rw [List.cons_append, headAndWords_cons_of_not_blank hx, headAndWords_cons_of_not_blank hx,
        ih]

/-- A blank between two texts keeps their words apart. -/
theorem words_append_cons {c : Char} (h : isBlank c = true) (a b : List Char) :
    words (a ++ c :: b) = words a ++ words b := by
  rw [words, headAndWords_append_cons h, consWord_append]
  rfl

/-- Whether two texts do not grow together when they stand side by side: there
is a blank between them, or one of them is empty. -/
def parted (a b : List Char) : Bool := a.getLast?.all isBlank || b.head?.all isBlank

@[simp] theorem parted_nil_left (b : List Char) : parted [] b = true := rfl

@[simp] theorem parted_nil_right (a : List Char) : parted a [] = true := by simp [parted]

theorem parted_cons_right {c : Char} (h : isBlank c = true) (a b : List Char) :
    parted a (c :: b) = true := by simp [parted, h]

theorem parted_concat_left {c : Char} (h : isBlank c = true) (a b : List Char) :
    parted (a ++ [c]) b = true := by simp [parted, h]

/-- Parted texts have the words of both. -/
theorem words_append_of_parted {a b : List Char} (h : parted a b = true) :
    words (a ++ b) = words a ++ words b := by
  rcases Bool.or_eq_true_iff.mp h with left | right
  · rcases a.eq_nil_or_concat with rfl | ⟨start, c, rfl⟩
    · rfl
    · rw [List.concat_eq_append] at left ⊢
      have hc : isBlank c = true := by simpa using left
      have ended : words (start ++ [c]) = words start := by
        rw [words_append_cons hc, words_nil, List.append_nil]
      rw [List.append_assoc, List.singleton_append, words_append_cons hc, ended]
  · cases b with
    | nil => simp
    | cons c rest =>
      have hc : isBlank c = true := by simpa using right
      rw [words_append_cons hc, words_cons_of_blank hc]

/-! ### Flattening -/

@[simp] theorem toList_flatten (text : String) :
    (flatten text).toList = flattenChars text.toList := String.toList_ofList

/-- Words with a space between two of them are the words of the text. -/
theorem words_intercalate {ws : List (List Char)} (h : ∀ w ∈ ws, IsWord w) :
    words (List.intercalate [' '] ws) = ws := by
  induction ws with
  | nil => rfl
  | cons w rest ih =>
    have hw := words_of_isWord (h w List.mem_cons_self)
    have hrest := ih fun v member => h v (List.mem_cons_of_mem w member)
    cases rest with
    | nil => rw [List.intercalate_singleton, hw]
    | cons next rest =>
      rw [List.intercalate_cons_cons, List.append_assoc, List.singleton_append,
        words_append_cons (by decide), hw, hrest]
      rfl

/-- Flattening keeps the words of a text. -/
@[simp] theorem words_flattenChars (cs : List Char) : words (flattenChars cs) = words cs :=
  words_intercalate fun _ member => isWord_of_mem_words member

theorem flattenChars_cons_of_blank {c : Char} (h : isBlank c = true) (cs : List Char) :
    flattenChars (c :: cs) = flattenChars cs := by
  rw [flattenChars, words_cons_of_blank h]
  rfl

/-- What flattening leaves between a character that is not blank and the text
behind it: a space, if there is a blank and then a word. -/
def gap (cs : List Char) : List Char :=
  if cs.head?.any isBlank && !(words cs).isEmpty then [' '] else []

theorem flattenChars_cons_of_not_blank {c : Char} (h : isBlank c = false) (cs : List Char) :
    flattenChars (c :: cs) = c :: (gap cs ++ flattenChars cs) := by
  rw [flattenChars, words_cons_of_not_blank h]
  cases cs with
  | nil => rfl
  | cons x cs =>
    cases hx : isBlank x with
    | true =>
      rw [headAndWords_cons_of_blank hx, flattenChars, gap, words_cons_of_blank hx]
      cases words cs with
      | nil => simp
      | cons w rest => simp [hx]
    | false =>
      rw [headAndWords_cons_of_not_blank hx, flattenChars, gap, words_cons_of_not_blank hx]
      cases (headAndWords cs).2 with
      | nil => simp [hx]
      | cons w rest => simp [hx]

/-- The flattened text of the end of a text ends the flattened text. -/
theorem flattenChars_suffix_append (a b : List Char) :
    flattenChars b <:+ flattenChars (a ++ b) := by
  induction a with
  | nil => exact List.suffix_refl _
  | cons c a ih =>
    apply ih.trans
    cases h : isBlank c with
    | true => exact ⟨[], (flattenChars_cons_of_blank h (a ++ b)).symm⟩
    | false =>
      rw [List.cons_append, flattenChars_cons_of_not_blank h]
      exact ⟨c :: gap (a ++ b), rfl⟩

theorem flattenChars_eq_nil_iff {cs : List Char} : flattenChars cs = [] ↔ words cs = [] := by
  constructor
  · intro h
    rw [← words_flattenChars, h, words_nil]
  · intro h
    rw [flattenChars, h]
    rfl

/-- The flattened text of the start of a text starts the flattened text. -/
theorem flattenChars_prefix_append (a b : List Char) :
    flattenChars a <+: flattenChars (a ++ b) := by
  induction a with
  | nil => exact List.nil_prefix
  | cons c a ih =>
    cases h : isBlank c with
    | true =>
      rw [List.cons_append, flattenChars_cons_of_blank h, flattenChars_cons_of_blank h]
      exact ih
    | false =>
      rw [List.cons_append, flattenChars_cons_of_not_blank h, flattenChars_cons_of_not_blank h,
        List.cons_prefix_cons]
      refine ⟨rfl, ?_⟩
      by_cases blank : words a = []
      · have empty := flattenChars_eq_nil_iff.mpr blank
        simp [gap, blank, empty]
      · -- The text behind has a word, whatever follows it, so the gap is the same.
        have more : words (a ++ b) ≠ [] := by
          intro none
          rw [flattenChars_eq_nil_iff.mpr none, List.prefix_nil] at ih
          exact blank (flattenChars_eq_nil_iff.mp ih)
        have same : gap (a ++ b) = gap a := by
          cases a with
          | nil => exact absurd rfl blank
          | cons x a =>
            rw [List.cons_append] at more
            simp [gap, blank, more]
        rw [same]
        exact (List.prefix_append_right_inj _).mpr ih

/-- A part of a text that is flattened already is a part of the flattened text. -/
theorem infix_flattenChars {part text : List Char} (flat : flattenChars part = part)
    (h : part <:+: text) : part <:+: flattenChars text := by
  obtain ⟨before, after, rfl⟩ := h
  rw [List.append_assoc]
  have start := flattenChars_prefix_append part after
  rw [flat] at start
  exact start.isInfix.trans (flattenChars_suffix_append before (part ++ after)).isInfix

/-! ### Flat texts -/

/-- Every blank of the text is a space, with a character that is not blank on either side. -/
def IsFlat (cs : List Char) : Prop :=
  ∀ before c after, cs = before ++ c :: after → isBlank c = true →
    c = ' ' ∧ before.getLast?.any (! isBlank ·) = true ∧ after.head?.any (! isBlank ·) = true

theorem isFlat_nil : IsFlat [] := by
  intro before c after whole
  cases before <;> cases whole

theorem IsFlat.head_not_blank {c : Char} {cs : List Char} (flat : IsFlat (c :: cs)) :
    isBlank c = false := by
  cases blank : isBlank c with
  | false => rfl
  | true => cases (flat [] c cs rfl blank).2.1

theorem getLast?_any_cons {p : Char → Bool} {cs : List Char} (h : cs.getLast?.any p = true)
    (c : Char) : (c :: cs).getLast?.any p = true := by
  cases cs with
  | nil => cases h
  | cons x cs => rwa [List.getLast?_cons_cons]

theorem IsFlat.cons {c : Char} {cs : List Char} (flat : IsFlat cs) (letter : isBlank c = false) :
    IsFlat (c :: cs) := by
  intro before x after whole blank
  cases before with
  | nil =>
    rw [← (List.cons.inj whole).1, letter] at blank
    cases blank
  | cons y before =>
    obtain ⟨rfl, inner⟩ := List.cons.inj whole
    obtain ⟨space, left, right⟩ := flat before x after inner blank
    exact ⟨space, getLast?_any_cons left c, right⟩

/-- A space may stand between a character and a text that is not empty. -/
theorem IsFlat.cons_space {c : Char} {cs : List Char} (flat : IsFlat cs)
    (letter : isBlank c = false) (nonempty : cs ≠ []) : IsFlat (c :: ' ' :: cs) := by
  intro before x after whole blank
  match before with
  | [] =>
    rw [← (List.cons.inj whole).1, letter] at blank
    cases blank
  | [y] =>
    obtain ⟨rfl, rest⟩ := List.cons.inj whole
    obtain ⟨rfl, rfl⟩ := List.cons.inj rest
    cases cs with
    | nil => exact absurd rfl nonempty
    | cons z cs => simp [letter, flat.head_not_blank]
  | y :: z :: before =>
    obtain ⟨rfl, rest⟩ := List.cons.inj whole
    obtain ⟨rfl, inner⟩ := List.cons.inj rest
    obtain ⟨space, left, right⟩ := flat before x after inner blank
    exact ⟨space, getLast?_any_cons (getLast?_any_cons left ' ') c, right⟩

/-- A flattened text is flat. -/
theorem isFlat_flattenChars (cs : List Char) : IsFlat (flattenChars cs) := by
  induction cs with
  | nil => exact isFlat_nil
  | cons c cs ih =>
    cases blank : isBlank c with
    | true =>
      rw [flattenChars_cons_of_blank blank]
      exact ih
    | false =>
      rw [flattenChars_cons_of_not_blank blank, gap]
      split
      · rename_i spaced
        apply ih.cons_space blank
        rw [ne_eq, flattenChars_eq_nil_iff]
        intro bare
        simp [bare] at spaced
      · exact ih.cons blank

/-! ### Letters -/

/-- The characters of a text that are not blank. -/
def letters (cs : List Char) : List Char := cs.filter (! isBlank ·)

theorem flatten_consWord (word : List Char) (others : List (List Char)) :
    (consWord word others).flatten = word ++ others.flatten := by
  cases word <;> rfl

theorem letters_eq_headAndWords (cs : List Char) :
    letters cs = (headAndWords cs).1 ++ (headAndWords cs).2.flatten := by
  induction cs with
  | nil => rfl
  | cons c cs ih =>
    cases blank : isBlank c with
    | true =>
      rw [headAndWords_cons_of_blank blank, words, flatten_consWord, ← ih]
      simp [letters, blank]
    | false =>
      rw [headAndWords_cons_of_not_blank blank, List.cons_append, ← ih]
      simp [letters, blank]

/-- The letters of a text are those of its words. -/
theorem letters_eq_flatten_words (cs : List Char) : letters cs = (words cs).flatten := by
  rw [words, flatten_consWord, letters_eq_headAndWords]

theorem letters_append (a b : List Char) : letters (a ++ b) = letters a ++ letters b :=
  List.filter_append a b

/-- Flattening keeps the letters of a text. -/
theorem letters_flattenChars (cs : List Char) : letters (flattenChars cs) = letters cs := by
  rw [letters_eq_flatten_words, words_flattenChars, letters_eq_flatten_words]

end SqlMapper.Text
