/-
Module: SqlMapper.Text.Words
Purpose: The words of a text, its flattened form, its lines, and cutting it at a separator.
Main exports: words, flattenChars, flatten, lines, cutAt?, sameLetters
-/
import SqlMapper.Text.Blank

namespace SqlMapper.Text

/-!
A word is a maximal run of characters that are not blank. Flattening writes
the words of a text with one space between them, which is the form in which
rendered statements leave the library.
-/

/-- Put a word in front of others, unless it is empty. -/
def consWord (word : List Char) (others : List (List Char)) : List (List Char) :=
  if word.isEmpty then others else word :: others

/-- The characters before the first blank, and the words after it. -/
def headAndWords (cs : List Char) : List Char × List (List Char) :=
  cs.foldr
    (fun c rest => if isBlank c then ([], consWord rest.1 rest.2) else (c :: rest.1, rest.2))
    ([], [])

/-- The words of a text, in order. -/
def words (cs : List Char) : List (List Char) :=
  consWord (headAndWords cs).1 (headAndWords cs).2

@[simp] theorem headAndWords_nil : headAndWords [] = ([], []) := rfl

theorem headAndWords_cons_of_blank {c : Char} (h : isBlank c = true) (cs : List Char) :
    headAndWords (c :: cs) = ([], words cs) := by
  simp [headAndWords, words, h]

theorem headAndWords_cons_of_not_blank {c : Char} (h : isBlank c = false) (cs : List Char) :
    headAndWords (c :: cs) = (c :: (headAndWords cs).1, (headAndWords cs).2) := by
  simp [headAndWords, h]

@[simp] theorem words_nil : words [] = [] := rfl

/-- A blank in front adds no word. -/
theorem words_cons_of_blank {c : Char} (h : isBlank c = true) (cs : List Char) :
    words (c :: cs) = words cs := by
  rw [words, headAndWords_cons_of_blank h]
  simp [consWord]

/-- The words of a text, one space between two of them. -/
def flattenChars (cs : List Char) : List Char :=
  List.intercalate [' '] (words cs)

/-- Collapse each run of blanks to a single space and drop the blanks at the ends. -/
def flatten (text : String) : String :=
  String.ofList (flattenChars text.toList)

/-- The lines of a text, each without the line feed that ends it. -/
def lines (cs : List Char) : List (List Char) :=
  cs.foldr
    (fun c rest =>
      if c = '\n' then [] :: rest
      else match rest with
        | [] => [[c]]
        | line :: others => (c :: line) :: others)
    [[]]

/-- The parts of a text before and after the first occurrence of a character. -/
def cutAt? (separator : Char) (cs : List Char) : Option (List Char × List Char) :=
  match cs.dropWhile (· != separator) with
  | [] => none
  | _ :: after => some (cs.takeWhile (· != separator), after)

/-- The two parts and the separator make up the text, and the first part is
free of the separator. -/
theorem cutAt?_eq_some {separator : Char} {cs before after : List Char}
    (h : cutAt? separator cs = some (before, after)) :
    cs = before ++ separator :: after ∧ separator ∉ before := by
  induction cs generalizing before with
  | nil => simp [cutAt?] at h
  | cons c cs ih =>
    by_cases hc : c = separator
    · subst hc
      simp [cutAt?] at h
      obtain ⟨rfl, rfl⟩ := h
      simp
    · have hne : (c != separator) = true := by simp [hc]
      simp only [cutAt?, List.dropWhile_cons, hne, if_true, List.takeWhile_cons] at h
      split at h
      · cases h
      · rename_i d rest hd
        simp only [Option.some.injEq, Prod.mk.injEq] at h
        obtain ⟨rfl, rfl⟩ := h
        have hcut : cutAt? separator cs = some (cs.takeWhile (· != separator), rest) := by
          simp [cutAt?, hd]
        have := ih hcut
        refine ⟨by rw [List.cons_append, ← this.1], ?_⟩
        simp only [List.mem_cons, not_or]
        exact ⟨fun e => hc e.symm, this.2⟩

/-- A text is cut at the first separator. -/
theorem cutAt?_append {separator : Char} {before : List Char} (free : separator ∉ before)
    (after : List Char) :
    cutAt? separator (before ++ separator :: after) = some (before, after) := by
  have passed : ∀ c ∈ before, (c != separator) = true := by
    intro c hc
    rw [bne_iff_ne]
    rintro rfl
    exact free hc
  rw [cutAt?, List.dropWhile_append_of_pos passed, List.takeWhile_append_of_pos passed]
  simp

/-- Two texts are the same up to the case of ASCII letters. -/
def sameLetters (a b : String) : Bool :=
  a.toList.map Char.toLower == b.toList.map Char.toLower

end SqlMapper.Text
