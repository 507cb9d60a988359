/-
Module: SqlMapper.Proofs.FlattenedTexts
Purpose: The flattened text as the normal form of a text up to its blanks, and when the parts
  of a text may be flattened before they are put together.
Main exports: SameWords, sameWords_iff, flattenChars_of_isFlat, flatten_eq_flatten_iff,
  flatten_eq_iff, fuse, words_append_of_not_parted, words_append_of_isFlat, flatten_append_iff,
  flatten_normal_form
-/
import SqlMapper.Proofs.WholeWords

namespace SqlMapper.Text

/-!
Among the texts that hold the same words exactly one is flat, and flattening finds it.
Included statements and blocks are flattened before the text around them is, and this
forgets the blanks at their ends. So it makes no difference if blanks are written between
the parts anyway, or if there are none at the seam; but a blank at the seam is lost, and
then the words on either side of it grow together.
-/

/-- Texts with the same words in the same order. -/
def SameWords (a b : String) : Prop := ∃ ws, AreWords a.toList ws ∧ AreWords b.toList ws

theorem areWords_iff {cs : List Char} {ws : List (List Char)} : AreWords cs ws ↔ words cs = ws := by
  constructor
  · exact words_of_areWords
  · rintro rfl
    exact areWords_words cs

theorem sameWords_iff {a b : String} : SameWords a b ↔ words a.toList = words b.toList := by
  constructor
  · rintro ⟨ws, front, back⟩
    exact (words_of_areWords front).trans (words_of_areWords back).symm
  · intro same
    exact ⟨words a.toList, areWords_words _, areWords_iff.mpr same.symm⟩

/-! ### Flat texts are flattened -/

/-- What stands behind an edge of a flat text is flat. -/
theorem IsFlat.of_append (front : List Char) {back : List Char} (flat : IsFlat (front ++ back))
    (edge : back.head?.any isBlank = false) : IsFlat back := by
  rintro before c after rfl blank
  obtain ⟨space, left, right⟩ := flat (front ++ before) c after (by simp) blank
  refine ⟨space, ?_, right⟩
  cases before with
  | nil => simp [blank] at edge
  | cons x before => rwa [List.getLast?_append_of_ne_nil front (List.cons_ne_nil x before)] at left

/-- A flat text is its own flattened text. -/
theorem flattenChars_of_isFlat : ∀ {cs : List Char}, IsFlat cs → flattenChars cs = cs
  | [], _ => rfl
  | [c], flat => by
      rw [flattenChars_cons_of_not_blank flat.head_not_blank]
      rfl
  | c :: x :: rest, flat => by
      have letter : isBlank c = false := flat.head_not_blank
      rw [flattenChars_cons_of_not_blank letter]
      cases blank : isBlank x with
      | false =>
        have whole : flattenChars (x :: rest) = x :: rest :=
          flattenChars_of_isFlat (flat.of_append [c] (by simp [blank]))
        have noGap : gap (x :: rest) = [] := by simp [gap, blank]
        rw [noGap, whole]
        rfl
      -- The blank is a space in front of a word, which is the gap that flattening leaves.
      | true =>
        obtain ⟨rfl, -, next⟩ := flat [c] x rest rfl blank
        cases rest with
        | nil => cases next
        | cons y rest =>
          have visible : isBlank y = false := by simpa using next
          have whole : flattenChars (y :: rest) = y :: rest :=
            flattenChars_of_isFlat (flat.of_append [c, ' '] (by simp [visible]))
          have space : gap (' ' :: y :: rest) = [' '] := by
            simp [gap, blank, words_cons_of_blank blank, words_cons_of_not_blank visible]
          rw [flattenChars_cons_of_blank blank, space, whole]
          rfl

theorem flatten_eq_flatten_iff {a b : String} :
    flatten a = flatten b ↔ words a.toList = words b.toList := by
  rw [← String.toList_inj, toList_flatten, toList_flatten]
  constructor
  · intro same
    rw [← words_flattenChars a.toList, same, words_flattenChars]
  · intro same
    rw [flattenChars, same, flattenChars]

/-- The flattened text is the only flat one with the same words. -/
theorem flatten_eq_iff {a flat : String} :
    flatten a = flat ↔ IsFlat flat.toList ∧ SameWords flat a := by
  constructor
  · rintro rfl
    rw [sameWords_iff, toList_flatten, words_flattenChars]
    exact ⟨isFlat_flattenChars a.toList, rfl⟩
  · rintro ⟨isFlat, same⟩
    rw [← flatten_eq_flatten_iff.mpr (sameWords_iff.mp same), flatten,
      flattenChars_of_isFlat isFlat, String.ofList_toList]

/-! ### Words that grow together -/

/-- The words of both lists, the last of the first list and the first of the second grown
together. -/
def fuse : List (List Char) → List (List Char) → List (List Char)
  | w :: next :: ws, vs => w :: fuse (next :: ws) vs
  | [w], v :: vs => (w ++ v) :: vs
  | ws, vs => ws ++ vs

section

variable {a b : List Char} {w : List Char} {ws vs : List (List Char)}

theorem fuse_nil_right (ws : List (List Char)) : fuse ws [] = ws := by
  induction ws with
  | nil => rfl
  | cons w ws ih =>
    cases ws with
    | nil => rfl
    | cons next ws => rw [fuse, ih]

theorem fuse_cons_of_ne_nil (w : List Char) (more : ws ≠ []) (vs : List (List Char)) :
    fuse (w :: ws) vs = w :: fuse ws vs := by
  cases ws with
  | nil => exact absurd rfl more
  | cons next ws => rfl

/-- Two words become one. -/
theorem length_fuse (front : ws ≠ []) (back : vs ≠ []) :
    (fuse ws vs).length + 1 = ws.length + vs.length := by
  induction ws with
  | nil => exact absurd rfl front
  | cons w ws ih =>
    cases ws with
    | nil =>
      cases vs with
      | nil => exact absurd rfl back
      | cons v vs =>
        simp only [fuse, List.length_cons, List.length_nil]
        omega
    | cons next ws =>
      have later := ih (List.cons_ne_nil next ws)
      simp only [fuse, List.length_cons] at later ⊢
      omega

theorem fuse_eq_append_iff : fuse ws vs = ws ++ vs ↔ ws = [] ∨ vs = [] := by
  constructor
  · intro same
    by_contra worded
    rw [not_or] at worded
    have fewer := length_fuse worded.1 worded.2
    rw [same, List.length_append] at fewer
    omega
  · rintro (rfl | rfl)
    · rfl
    · rw [fuse_nil_right, List.append_nil]

theorem parted_of_isBlankText (blanks : isBlankText a = true) (b : List Char) :
    parted a b = true := by
  rw [parted, Bool.or_eq_true_iff, Option.all_eq_true]
  left
  intro c last
  exact isBlankText_iff.mp blanks c (List.mem_of_getLast? last)

/-- A text that does not start with a blank has no blanks in front. -/
theorem eq_nil_of_visible (blanks : isBlankText a = true) (b : List Char)
    (visible : (a ++ b).head?.all isBlank = false) : a = [] := by
  cases a with
  | nil => rfl
  | cons c a =>
    have blank : isBlank c = true := isBlankText_iff.mp blanks c List.mem_cons_self
    simp [blank] at visible

theorem IsWord.append {v : List Char} (front : IsWord w) (back : IsWord v) : IsWord (w ++ v) := by
  refine ⟨List.append_ne_nil_of_left_ne_nil front.1 v, ?_⟩
  intro c member
  rcases List.mem_append.mp member with left | right
  · exact front.2 c left
  · exact back.2 c right

theorem AreWords.isBlankText (h : AreWords a []) : isBlankText a = true := by
  cases h with
  | blanks h => exact h

/-- Unless the texts are parted, the words at the seam grow together. -/
theorem AreWords.append_of_not_parted (front : AreWords a ws) (back : AreWords b vs)
    (joined : parted a b = false) : AreWords (a ++ b) (fuse ws vs) := by
  induction front with
  | @blanks a blanks =>
    rw [parted_of_isBlankText blanks] at joined
    cases joined
  | @word indent w rest ws blanks word edge behind ih =>
    cases rest with
    -- The text ends with this word, and the other text starts with a word.
    | nil =>
      obtain rfl : [] = ws := words_of_areWords behind
      have start : b.head?.all isBlank = false := (Bool.or_eq_false_iff.mp joined).2
      cases back with
      | blanks all =>
        obtain rfl : b = [] := eq_nil_of_visible all [] (by rwa [List.append_nil])
        cases start
      | @word indent' v rest' vs blanks' word' edge' behind' =>
        obtain rfl : indent' = [] := eq_nil_of_visible blanks' _ start
        have whole : indent ++ (w ++ []) ++ (v ++ rest') = indent ++ ((w ++ v) ++ rest') := by
          simp
        rw [List.nil_append, whole]
        exact .word blanks (word.append word') edge' behind'
    | cons c rest =>
      have last : parted (c :: rest) b = false := by
        rw [← joined, parted, parted, ← List.append_assoc,
          List.getLast?_append_of_ne_nil (indent ++ w) (List.cons_ne_nil c rest)]
      have worded : ws ≠ [] := by
        rintro rfl
        rw [parted_of_isBlankText behind.isBlankText] at last
        cases last
      rw [fuse_cons_of_ne_nil w worded, List.append_assoc, List.append_assoc]
      exact .word blanks word edge (ih last)

/-- Texts that are not parted have the words of both, the two at the seam grown together. -/
theorem words_append_of_not_parted (joined : parted a b = false) :
    words (a ++ b) = fuse (words a) (words b) :=
  words_of_areWords ((areWords_words a).append_of_not_parted (areWords_words b) joined)

/-- A flat text does not end with a blank. -/
theorem IsFlat.getLast_not_blank {c : Char} (flat : IsFlat (a ++ [c])) : isBlank c = false := by
  cases blank : isBlank c with
  | false => rfl
  | true => cases (flat a c [] rfl blank).2.2

/-- Of flat texts the words at the seam always grow together. -/
theorem words_append_of_isFlat (front : IsFlat a) (back : IsFlat b) :
    words (a ++ b) = fuse (words a) (words b) := by
  rcases a.eq_nil_or_concat with rfl | ⟨start, x, rfl⟩
  · rfl
  · cases b with
    | nil => rw [List.append_nil, words_nil, fuse_nil_right]
    | cons y rest =>
      rw [List.concat_eq_append] at front ⊢
      apply words_append_of_not_parted
      simp [parted, front.getLast_not_blank, back.head_not_blank]

/-! ### Flattening the parts of a text -/

/-- Blanks between two texts keep their words apart. -/
theorem words_append_run {run : List Char} (blanks : IsRun run) (a b : List Char) :
    words (a ++ run ++ b) = words a ++ words b := by
  obtain ⟨nonempty, all⟩ := blanks
  cases run with
  | nil => exact absurd rfl nonempty
  | cons c run =>
    rw [List.forall_mem_cons] at all
    have behind := words_append_of_isBlankText (isBlankText_iff.mpr all.2) b
    rw [List.append_assoc, List.cons_append, words_append_cons all.1, behind]

/-- Without a blank on either side of the seam nothing is lost there. -/
theorem seam_of_visible (last : a.getLast?.any isBlank = false)
    (first : b.head?.any isBlank = false) :
    isBlankText a = true ∨ isBlankText b = true ∨ parted a b = false := by
  rcases a.eq_nil_or_concat with rfl | ⟨start, x, rfl⟩
  · exact .inl rfl
  · cases b with
    | nil => exact .inr (.inl rfl)
    | cons y rest =>
      have left : isBlank x = false := by simpa using last
      have right : isBlank y = false := by simpa using first
      exact .inr (.inr (by simp [parted, left, right]))

end

/-- The parts of a text may be flattened before the text is, unless both hold words and there
is a blank at the seam. -/
theorem flatten_append_iff {a b : String} :
    flatten (a ++ b) = flatten (flatten a ++ flatten b)
      ↔ isBlankText a.toList = true ∨ isBlankText b.toList = true
        ∨ parted a.toList b.toList = false := by
  have parts : words (flatten a ++ flatten b).toList = fuse (words a.toList) (words b.toList) := by
    rw [String.toList_append, toList_flatten, toList_flatten,
      words_append_of_isFlat (isFlat_flattenChars _) (isFlat_flattenChars _), words_flattenChars,
      words_flattenChars]
  rw [flatten_eq_flatten_iff, parts, String.toList_append]
  cases seam : parted a.toList b.toList with
  | false => simp [words_append_of_not_parted seam]
  | true =>
    rw [words_append_of_parted seam, eq_comm, fuse_eq_append_iff, words_eq_nil_iff,
      words_eq_nil_iff]
    simp

/-- The blank at the end of the first text is lost. -/
example : flatten ("AND " ++ "x") ≠ flatten (flatten "AND " ++ flatten "x") := by decide

/-- Flattening gives the normal form of texts up to their blanks. It keeps the words of a text
and leaves no blank but a space between two words; flattening again changes nothing, and two
texts are flattened to the same exactly if they have the same words. Two texts may be flattened
before they are put together with blanks in between, whatever the blanks are, and also without
any, if the first does not end and the second does not start with a blank. -/
theorem flatten_normal_form (a b : String) :
    SameWords (flatten a) a
      ∧ IsFlat (flatten a).toList
      ∧ flatten (flatten a) = flatten a
      ∧ (flatten a = flatten b ↔ SameWords a b)
      ∧ (∀ blanks : String, IsRun blanks.toList →
          flatten (a ++ blanks ++ b) = flatten (flatten a ++ " " ++ flatten b))
      ∧ (a.toList.getLast?.any isBlank = false → b.toList.head?.any isBlank = false →
          flatten (a ++ b) = flatten (flatten a ++ flatten b)) := by
  obtain ⟨flat, same⟩ := flatten_eq_iff.mp (Eq.refl (flatten a))
  refine ⟨same, flat, flatten_eq_iff.mpr ⟨flat, ?_⟩, ?_, ?_, ?_⟩
  · exact sameWords_iff.mpr rfl
  · rw [flatten_eq_flatten_iff, sameWords_iff]
  · intro blanks run
    have space : IsRun " ".toList := by decide
    rw [flatten_eq_flatten_iff]
    simp only [String.toList_append, toList_flatten]
    rw [words_append_run run, words_append_run space, words_flattenChars, words_flattenChars]
  · intro last first
    exact flatten_append_iff.mpr (seam_of_visible last first)

/-- Blanks of several kinds in and around two texts, and nothing between them. -/
theorem flatten_normal_form_seam :
    let a := " SELECT *\n\tFROM"
    let b := "t\u00a0\u2003WHERE x "
    IsRun "\u3000\n".toList ∧ a.toList.getLast?.any isBlank = false
      ∧ b.toList.head?.any isBlank = false
      ∧ flatten (a ++ "\u3000\n" ++ b) = "SELECT * FROM t WHERE x"
      ∧ flatten (a ++ b) = "SELECT * FROMt WHERE x" := by
  intro a b
  have run : IsRun "\u3000\n".toList := by decide
  have front : flatten a = "SELECT * FROM" := by decide
  have back : flatten b = "t WHERE x" := by decide
  obtain ⟨-, -, -, -, spaced, joined⟩ := flatten_normal_form a b
  refine ⟨run, by decide, by decide, ?_, ?_⟩
  · rw [spaced _ run, front, back]
    decide
  · rw [joined (by decide) (by decide), front, back]
    decide

end SqlMapper.Text
