/-
Module: SqlMapper.Proofs.Reflow
Purpose: Texts that differ only in how their blanks are written.
Main exports: IsRun, Reflowed, Reflowed.append, Reflowed.words_eq, reflowed_trim
-/
import SqlMapper.Proofs.Spans
import SqlMapper.Proofs.Words

namespace SqlMapper.Text

/-!
A text can be laid out in another way: wherever there are blanks there may be
others, and nowhere else. This is stronger than having the same words, for a
text with a blank at its end does not grow together with the next one; so texts
that are laid out in another way can be put together, and still have the same
words.
-/

/-- One or more blanks. -/
def IsRun (cs : List Char) : Prop := cs ≠ [] ∧ ∀ c ∈ cs, isBlank c = true

theorem isRun_iff {cs : List Char} : IsRun cs ↔ (!cs.isEmpty && cs.all isBlank) = true := by
  simp [IsRun]

instance (cs : List Char) : Decidable (IsRun cs) := decidable_of_iff _ isRun_iff.symm

/-- Texts that are the same, except that runs of blanks are replaced by other
ones. A run may be replaced in parts, which is the same as replacing all of it. -/
inductive Reflowed : List Char → List Char → Prop where
  | nil : Reflowed [] []
  | letter {c : Char} {a b : List Char} (letter : isBlank c = false) (behind : Reflowed a b) :
      Reflowed (c :: a) (c :: b)
  | run {run run' a b : List Char} (blanks : IsRun run) (blanks' : IsRun run')
      (behind : Reflowed a b) : Reflowed (run ++ a) (run' ++ b)

theorem isRun_singleton {c : Char} (h : isBlank c = true) : IsRun [c] := by
  refine ⟨List.cons_ne_nil c [], ?_⟩
  intro x member
  rw [List.mem_singleton.mp member]
  exact h

theorem IsRun.cons {c : Char} {run : List Char} (h : isBlank c = true) (blanks : IsRun run) :
    IsRun (c :: run) := by
  refine ⟨List.cons_ne_nil c run, ?_⟩
  intro x member
  rcases List.mem_cons.mp member with rfl | later
  · exact h
  · exact blanks.2 x later

theorem IsRun.head?_append {run : List Char} (blanks : IsRun run) (rest : List Char) :
    (run ++ rest).head?.any isBlank = true := by
  cases run with
  | nil => exact absurd rfl blanks.1
  | cons c run => exact blanks.2 c List.mem_cons_self

namespace Reflowed

theorem refl (cs : List Char) : Reflowed cs cs := by
  induction cs with
  | nil => exact .nil
  | cons c cs ih =>
    cases h : isBlank c with
    | true => exact .run (isRun_singleton h) (isRun_singleton h) ih
    | false => exact .letter h ih

theorem symm {a b : List Char} (h : Reflowed a b) : Reflowed b a := by
  induction h with
  | nil => exact .nil
  | letter isLetter _ ih => exact .letter isLetter ih
  | run blanks blanks' _ ih => exact .run blanks' blanks ih

/-- Texts that are put together from reflowed ones are reflowed. -/
theorem append {a a' b b' : List Char} (front : Reflowed a a') (back : Reflowed b b') :
    Reflowed (a ++ b) (a' ++ b') := by
  induction front with
  | nil => exact back
  | letter isLetter _ ih => exact .letter isLetter ih
  | run blanks blanks' _ ih =>
    rw [List.append_assoc, List.append_assoc]
    exact .run blanks blanks' ih

/-! ### Words -/

/-- Behind a run there is a new word, whatever the run is. -/
theorem headAndWords_run {run : List Char} (blanks : IsRun run) (cs : List Char) :
    headAndWords (run ++ cs) = ([], words cs) := by
  obtain ⟨nonempty, allBlank⟩ := blanks
  cases run with
  | nil => exact absurd rfl nonempty
  | cons c run =>
    rw [List.forall_mem_cons] at allBlank
    have behind := words_append_of_isBlankText (isBlankText_iff.mpr allBlank.2) cs
    rw [List.cons_append, headAndWords_cons_of_blank allBlank.1, behind]

theorem headAndWords_eq {a b : List Char} (h : Reflowed a b) :
    headAndWords a = headAndWords b := by
  induction h with
  | nil => rfl
  | letter isLetter _ ih =>
    rw [headAndWords_cons_of_not_blank isLetter, headAndWords_cons_of_not_blank isLetter, ih]
  | run blanks blanks' _ ih =>
    rw [headAndWords_run blanks, headAndWords_run blanks', words, words, ih]

/-- Reflowed texts have the same words. -/
theorem words_eq {a b : List Char} (h : Reflowed a b) : words a = words b := by
  rw [words, words, h.headAndWords_eq]

/-- Reflowed texts are flattened to the same. -/
theorem flattenChars_eq {a b : List Char} (h : Reflowed a b) :
    flattenChars a = flattenChars b := by
  rw [flattenChars, flattenChars, h.words_eq]

/-- Reflowed texts have the same letters. -/
theorem letters_eq {a b : List Char} (h : Reflowed a b) : letters a = letters b := by
  rw [letters_eq_flatten_words, letters_eq_flatten_words, h.words_eq]

/-! ### Flattening as a new layout -/

/-- Another blank in front of a run makes no difference. -/
theorem cons_of_space {c : Char} (blank : isBlank c = true) {a b : List Char}
    (h : Reflowed a (' ' :: b)) : Reflowed (c :: a) (' ' :: b) := by
  generalize written : ' ' :: b = spaced at h ⊢
  cases h with
  | nil => cases written
  | letter isLetter _ =>
    rw [← (List.cons.inj written).1] at isLetter
    cases isLetter
  | run blanks blanks' behind => exact .run (blanks.cons blank) blanks' behind

end Reflowed

theorem trimEnd_cons (c : Char) (cs : List Char) :
    trimEnd (c :: cs) = if trimEnd cs = [] ∧ isBlank c = true then [] else c :: trimEnd cs := by
  simp only [trimEnd, List.reverse_cons, List.dropWhile_append, List.isEmpty_iff,
    List.reverse_eq_nil_iff]
  by_cases empty : cs.reverse.dropWhile isBlank = []
  · cases blank : isBlank c <;> simp [empty, blank]
  · simp [empty]

/-- A text without the blanks at its end is empty if it has no word. -/
theorem trimEnd_eq_nil_iff {cs : List Char} : trimEnd cs = [] ↔ words cs = [] := by
  induction cs with
  | nil => simp [trimEnd]
  | cons c cs ih =>
    rw [trimEnd_cons]
    cases blank : isBlank c with
    | true => simp [ih, words_cons_of_blank blank]
    | false => simp [words_cons_of_not_blank blank]

/-- Flattening a text is a new layout of it without the blanks at its end, with a
space for the blanks at its start. -/
theorem reflowed_trimEnd (cs : List Char) :
    Reflowed (trimEnd cs) (gap cs ++ flattenChars cs) := by
  induction cs with
  | nil => exact .nil
  | cons c cs ih =>
    cases blank : isBlank c with
    | false =>
      rw [trimEnd_cons, if_neg (by simp [blank]), flattenChars_cons_of_not_blank blank]
      have noGap : gap (c :: cs) = [] := by simp [gap, blank]
      rw [noGap]
      exact .letter blank ih
    | true =>
      rw [trimEnd_cons, flattenChars_cons_of_blank blank]
      by_cases bare : words cs = []
      · have noGap : gap (c :: cs) = [] := by simp [gap, words_cons_of_blank blank, bare]
        rw [if_pos ⟨trimEnd_eq_nil_iff.mpr bare, blank⟩, noGap, flattenChars_eq_nil_iff.mpr bare]
        exact .nil
      -- A word comes later: the blank is the whole run before it, or the start of a longer one.
      · have space : gap (c :: cs) = [' '] := by
          simp [gap, words_cons_of_blank blank, bare, blank]
        rw [if_neg (by simp [trimEnd_eq_nil_iff, bare]), space]
        by_cases spaced : cs.head?.any isBlank = true
        · have inner : gap cs = [' '] := by simp [gap, spaced, bare]
          rw [inner] at ih
          exact ih.cons_of_space blank
        · have inner : gap cs = [] := by simp [gap, spaced]
          rw [inner] at ih
          exact .run (isRun_singleton blank) (isRun_singleton (by decide)) ih

theorem flattenChars_trimStart (cs : List Char) :
    flattenChars (trimStart cs) = flattenChars cs := by
  induction cs with
  | nil => rfl
  | cons c cs ih =>
    cases blank : isBlank c with
    | true =>
      rw [flattenChars_cons_of_blank blank, ← ih, trimStart, List.dropWhile_cons_of_pos blank]
      rfl
    | false => rw [trimStart, List.dropWhile_cons_of_neg (by simp [blank])]

/-- Flattening a text is a new layout of it without the blanks at its ends. -/
theorem reflowed_trim (cs : List Char) : Reflowed (trim cs) (flattenChars cs) := by
  have noGap : gap (trimStart cs) = [] := by
    have front := head?_trimStart cs
    simp [gap, front]
  have whole := reflowed_trimEnd (trimStart cs)
  rw [noGap, flattenChars_trimStart] at whole
  exact whole

/-- A text keeps its letters without the blanks at its ends. -/
theorem letters_trim (cs : List Char) : letters (trim cs) = letters cs := by
  rw [(reflowed_trim cs).letters_eq, letters_flattenChars]

end SqlMapper.Text
