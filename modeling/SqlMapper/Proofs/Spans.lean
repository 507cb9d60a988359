/-
Module: SqlMapper.Proofs.Spans
Purpose: Where a run of characters of one kind ends, and trimming in those terms.
Main exports: takeWhile_append_of_edge, dropWhile_append_of_edge, exists_span,
  IsTrimmed, isTrimmed_trim, exists_trim, trim_eq_nil_iff, trim_append
-/
import Mathlib.Data.List.Basic
import SqlMapper.Text.Blank

namespace SqlMapper.Text

/-!
A scanner takes characters of a kind as long as there are any. If a text is put
together from such a run and from what starts with another character, the scanner
cuts it at that edge. Trimming is such a cut at either end.
-/

/-! ### The edge of a run -/

section Edge

variable {p : Char → Bool} {front back : List Char}

theorem takeWhile_append_of_edge (inside : ∀ c ∈ front, p c = true)
    (edge : back.head?.any p = false) : (front ++ back).takeWhile p = front := by
  rw [List.takeWhile_append_of_pos inside]
  cases back with
  | nil => rw [List.takeWhile_nil, List.append_nil]
  | cons c back =>
    have outside : ¬ p c = true := by simpa using edge
    rw [List.takeWhile_cons_of_neg outside, List.append_nil]

theorem dropWhile_append_of_edge (inside : ∀ c ∈ front, p c = true)
    (edge : back.head?.any p = false) : (front ++ back).dropWhile p = back := by
  rw [List.dropWhile_append_of_pos inside]
  cases back with
  | nil => rfl
  | cons c back =>
    have outside : ¬ p c = true := by simpa using edge
    rw [List.dropWhile_cons_of_neg outside]

/-- What a scanner leaves starts with a character of another kind. -/
theorem head?_dropWhile_any (p : Char → Bool) (cs : List Char) :
    (cs.dropWhile p).head?.any p = false := by
  have outside := List.head?_dropWhile_not p cs
  cases first : (cs.dropWhile p).head? with
  | none => rfl
  | some c =>
    rw [first] at outside
    exact outside

/-- Every text is a run, which may be empty, and a rest behind its edge; this is
what a scanner cuts it into. -/
theorem exists_span (p : Char → Bool) (cs : List Char) :
    ∃ front back, (∀ c ∈ front, p c = true) ∧ back.head?.any p = false ∧ cs = front ++ back
      ∧ cs.takeWhile p = front ∧ cs.dropWhile p = back :=
  ⟨cs.takeWhile p, cs.dropWhile p, List.all_eq_true.mp List.all_takeWhile,
    head?_dropWhile_any p cs, List.takeWhile_append_dropWhile.symm, rfl, rfl⟩

end Edge

/-! ### Trimming -/

variable {indent written trail cs : List Char}

theorem isBlankText_iff : isBlankText cs = true ↔ ∀ c ∈ cs, isBlank c = true := by
  rw [isBlankText, List.all_eq_true]

/-- There is no blank at either end of the text. -/
def IsTrimmed (cs : List Char) : Prop :=
  cs.head?.any isBlank = false ∧ cs.getLast?.any isBlank = false

instance (cs : List Char) : Decidable (IsTrimmed cs) := inferInstanceAs (Decidable (_ ∧ _))

/-- The blanks that trimming takes from the start. -/
theorem exists_trimStart (cs : List Char) :
    ∃ indent, isBlankText indent = true ∧ cs = indent ++ trimStart cs :=
  ⟨cs.takeWhile isBlank, List.all_takeWhile, List.takeWhile_append_dropWhile.symm⟩

theorem trimStart_append (blanks : isBlankText indent = true)
    (edge : cs.head?.any isBlank = false) : trimStart (indent ++ cs) = cs :=
  dropWhile_append_of_edge (isBlankText_iff.mp blanks) edge

theorem head?_trimStart (cs : List Char) : (trimStart cs).head?.any isBlank = false :=
  head?_dropWhile_any isBlank cs

theorem reverse_trimEnd (cs : List Char) : (trimEnd cs).reverse = trimStart cs.reverse :=
  List.reverse_reverse _

theorem isBlankText_reverse : isBlankText cs.reverse = isBlankText cs := List.all_reverse

/-- The blanks that trimming takes from the end. -/
theorem exists_trimEnd (cs : List Char) :
    ∃ trail, isBlankText trail = true ∧ cs = trimEnd cs ++ trail := by
  obtain ⟨indent, blanks, whole⟩ := exists_trimStart cs.reverse
  refine ⟨indent.reverse, isBlankText_reverse.trans blanks, ?_⟩
  rw [← List.reverse_inj, whole, List.reverse_append, List.reverse_reverse, reverse_trimEnd]

theorem trimEnd_append (blanks : isBlankText trail = true)
    (edge : cs.getLast?.any isBlank = false) : trimEnd (cs ++ trail) = cs := by
  rw [← List.reverse_inj, reverse_trimEnd, List.reverse_append]
  apply trimStart_append (isBlankText_reverse.trans blanks)
  rwa [List.head?_reverse]

theorem getLast?_trimEnd (cs : List Char) : (trimEnd cs).getLast?.any isBlank = false := by
  rw [← List.head?_reverse, reverse_trimEnd]
  exact head?_trimStart cs.reverse

theorem head?_append_any (nonempty : written ≠ []) (trimmed : IsTrimmed written)
    (trail : List Char) : (written ++ trail).head?.any isBlank = false := by
  rw [List.head?_append_of_ne_nil written nonempty]
  exact trimmed.1

/-- A trimmed text is trimmed. -/
theorem isTrimmed_trim (cs : List Char) : IsTrimmed (trim cs) := by
  refine ⟨?_, getLast?_trimEnd _⟩
  by_cases bare : trim cs = []
  · rw [bare]
    rfl
  · -- What trimming leaves starts like the text without the blanks at its start.
    obtain ⟨trail, -, whole⟩ := exists_trimEnd (trimStart cs)
    have first := head?_trimStart cs
    rwa [whole, ← trim, List.head?_append_of_ne_nil _ bare] at first

/-- The blanks that trimming takes from either end. -/
theorem exists_trim (cs : List Char) :
    ∃ indent trail, isBlankText indent = true ∧ isBlankText trail = true
      ∧ cs = indent ++ (trim cs ++ trail) := by
  obtain ⟨indent, front, whole⟩ := exists_trimStart cs
  obtain ⟨trail, back, rest⟩ := exists_trimEnd (trimStart cs)
  exact ⟨indent, trail, front, back, rest ▸ whole⟩

/-- Trimming leaves nothing of a text of blanks alone. -/
theorem trim_eq_nil_iff : trim cs = [] ↔ isBlankText cs = true := by
  constructor
  · intro bare
    obtain ⟨indent, trail, front, back, whole⟩ := exists_trim cs
    rw [whole, bare, List.nil_append, isBlankText, List.all_append, Bool.and_eq_true]
    exact ⟨front, back⟩
  · intro blanks
    have start : trimStart cs = [] := by
      have all : trimStart (cs ++ []) = [] := trimStart_append blanks rfl
      rwa [List.append_nil] at all
    rw [trim, start]
    rfl

/-- Blanks around a trimmed text are what trimming takes away. -/
theorem trim_append (front : isBlankText indent = true) (nonempty : written ≠ [])
    (trimmed : IsTrimmed written) (back : isBlankText trail = true) :
    trim (indent ++ (written ++ trail)) = written := by
  rw [trim, trimStart_append front (head?_append_any nonempty trimmed trail),
    trimEnd_append back trimmed.2]

end SqlMapper.Text
