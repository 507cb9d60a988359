/-
Module: SqlMapper.Proofs.ClauseWords
Purpose: The clause of a block in terms of the words that the block holds.
Main exports: isConnector, dropConnector, stripConnector_intercalate, clause?_eq_some_iff,
  words_blockText, infix_words_blockText, infix_blockText
-/
import Mathlib.Data.List.Infix
import SqlMapper.Proofs.Spans
import SqlMapper.Proofs.Words
import SqlMapper.Query.Rendering

namespace SqlMapper.Query

open SqlMapper.Text

/-!
A connector is dropped together with the space behind it, which a flattened text
only has if another word follows. So in words, a block drops its first word if
that is a connector and not the only one, and is blank only if it has no word.
What is dropped this way is never a piece of a clause inside the block, for a
clause does not start as a connector does.
-/

/-- Whether a word is a connector, in any case of its letters. -/
def isConnector (w : List Char) : Bool := connectors.contains (w.map Char.toUpper ++ [' '])

/-- The words without a connector in front of others. -/
def dropConnector : List (List Char) → List (List Char)
  | w :: next :: rest => if isConnector w then next :: rest else w :: next :: rest
  | ws => ws

/-! ### Connectors -/

theorem eq_space_of_toUpper {c : Char} (h : c.toUpper = ' ') : c = ' ' := by
  unfold Char.toUpper at h
  split at h
  · rename_i lower
    have code := congrArg (fun x => x.val.toNat) h
    have low : 97 ≤ c.val.toNat := lower.1
    have high : c.val.toNat ≤ 122 := lower.2
    simp only [UInt32.toNat_add] at code
    change (c.val.toNat + 4294967264) % 4294967296 = 32 at code
    omega
  · exact h

/-- A word has no space in any case of its letters. -/
theorem space_not_mem_map_toUpper {w : List Char} (h : IsWord w) : ' ' ∉ w.map Char.toUpper := by
  intro member
  obtain ⟨c, hc, hupper⟩ := List.mem_map.mp member
  obtain rfl := eq_space_of_toUpper hupper
  exact absurd (h.2 _ hc) (by decide)

/-- A connector is a word and the space that ends it. -/
theorem exists_of_mem_connectors {connector : List Char} (h : connector ∈ connectors) :
    ∃ k, connector = k ++ [' '] ∧ ' ' ∉ k := by
  simp only [connectors, List.mem_cons, List.not_mem_nil, or_false] at h
  rcases h with rfl | rfl
  · exact ⟨"AND".toList, by decide, by decide⟩
  · exact ⟨"OR".toList, by decide, by decide⟩

theorem startsWithConnector_iff {cs connector : List Char} :
    startsWithConnector cs connector = true ↔ connector <+: cs.map Char.toUpper := by
  rw [startsWithConnector, beq_iff_eq, List.map_take, List.prefix_iff_eq_take]
  exact eq_comm

theorem takeWhile_ne_space {front : List Char} (h : ' ' ∉ front) (rest : List Char) :
    (front ++ ' ' :: rest).takeWhile (· != ' ') = front := by
  have inside : ∀ c ∈ front, (c != ' ') = true := by
    intro c member
    rw [bne_iff_ne]
    rintro rfl
    exact h member
  exact takeWhile_append_of_edge inside rfl

/-- A text starts with a connector if its first word is one and a space is behind it. -/
theorem startsWithConnector_append_iff {w rest connector : List Char} (hw : IsWord w)
    (h : connector ∈ connectors) :
    startsWithConnector (w ++ ' ' :: rest) connector = true
      ↔ connector = w.map Char.toUpper ++ [' '] := by
  obtain ⟨k, rfl, hk⟩ := exists_of_mem_connectors h
  have hspace := space_not_mem_map_toUpper hw
  rw [startsWithConnector_iff, List.map_append, List.map_cons]
  constructor
  · rintro ⟨more, hmore⟩
    rw [List.append_assoc, List.singleton_append] at hmore
    -- The first space stands behind `k` on one side, and behind the word on the other.
    have front := congrArg (List.takeWhile (· != ' ')) hmore
    rw [takeWhile_ne_space hk] at front
    exact congrArg (· ++ [' ']) (front.trans (takeWhile_ne_space hspace _))
  · intro same
    rw [same]
    exact ⟨rest.map Char.toUpper, by simp⟩

/-- A word alone does not start with a connector. -/
theorem not_startsWithConnector_of_isWord {w connector : List Char} (hw : IsWord w)
    (h : connector ∈ connectors) : startsWithConnector w connector = false := by
  obtain ⟨k, rfl, _⟩ := exists_of_mem_connectors h
  rw [← Bool.not_eq_true, startsWithConnector_iff]
  intro start
  apply space_not_mem_map_toUpper hw
  exact start.subset (List.mem_append_right _ (List.mem_singleton_self ' '))

/-- Of a flattened text one connector is dropped, if it is not all of the text. -/
theorem stripConnector_intercalate {ws : List (List Char)} (h : ∀ w ∈ ws, IsWord w) :
    stripConnector (List.intercalate [' '] ws) = List.intercalate [' '] (dropConnector ws) := by
  match ws with
  | [] => rfl
  | [w] =>
    have hw := h w List.mem_cons_self
    have none : connectors.find? (startsWithConnector w) = none := by
      rw [List.find?_eq_none]
      intro connector member
      simp [not_startsWithConnector_of_isWord hw member]
    simp [stripConnector, none, dropConnector]
  | w :: next :: rest =>
    have hw := h w List.mem_cons_self
    rw [List.intercalate_cons_cons, List.append_assoc, List.singleton_append, stripConnector,
      dropConnector]
    cases found : connectors.find? (startsWithConnector
        (w ++ ' ' :: List.intercalate [' '] (next :: rest))) with
    | none =>
      have not : isConnector w = false := by
        rw [← Bool.not_eq_true, isConnector, List.contains_iff_mem]
        intro member
        have := List.find?_eq_none.mp found _ member
        exact this ((startsWithConnector_append_iff hw member).mpr rfl)
      simp [not]
    | some connector =>
      have member := List.mem_of_find?_eq_some found
      have same := (startsWithConnector_append_iff hw member).mp (List.find?_some found)
      have is : isConnector w = true := by
        rw [isConnector, List.contains_iff_mem, ← same]
        exact member
      simp [is, same]

/-! ### Clauses -/

/-- The word that a clause starts with. -/
def keyword : List Char := "WHERE".toList

theorem isWord_keyword : IsWord keyword := by
  refine ⟨by decide, ?_⟩
  simp [keyword, isBlank]

theorem mem_dropConnector {ws : List (List Char)} {w : List Char} (h : w ∈ dropConnector ws) :
    w ∈ ws := by
  match ws with
  | [] => exact h
  | [_] => exact h
  | first :: next :: rest =>
    rw [dropConnector] at h
    split at h
    · exact List.mem_cons_of_mem _ h
    · exact h

theorem dropConnector_eq_nil_iff {ws : List (List Char)} : dropConnector ws = [] ↔ ws = [] := by
  match ws with
  | [] => rfl
  | [_] => simp [dropConnector]
  | _ :: _ :: _ =>
    rw [dropConnector]
    split <;> simp

/-- The words of a clause: the keyword, and those of the block without a first connector. -/
def clauseWords (content : List Char) : List (List Char) :=
  keyword :: dropConnector (words content)

theorem isWord_of_mem_clauseWords {content w : List Char} (h : w ∈ clauseWords content) :
    IsWord w := by
  rcases List.mem_cons.mp h with rfl | later
  · exact isWord_keyword
  · exact isWord_of_mem_words (mem_dropConnector later)

theorem intercalate_eq_nil_iff {ws : List (List Char)} (h : ∀ w ∈ ws, IsWord w) :
    List.intercalate [' '] ws = [] ↔ ws = [] := by
  constructor
  · intro empty
    rw [← words_intercalate h, empty, words_nil]
  · rintro rfl
    rfl

/-- What a block keeps of its flattened content. -/
theorem stripConnector_flattenChars (content : List Char) :
    stripConnector (flattenChars content)
      = List.intercalate [' '] (dropConnector (words content)) :=
  stripConnector_intercalate fun _ member => isWord_of_mem_words member

/-- A block has a clause if it has a word, and the clause is the text of its words. -/
theorem clause?_eq_some_iff {content clause : List Char} :
    clause? content = some clause
      ↔ words content ≠ [] ∧ clause = List.intercalate [' '] (clauseWords content) := by
  have isWord : ∀ w ∈ dropConnector (words content), IsWord w :=
    fun _ member => isWord_of_mem_words (mem_dropConnector member)
  rw [clause?, stripConnector_flattenChars]
  cases kept : dropConnector (words content) with
  | nil =>
    have blank := dropConnector_eq_nil_iff.mp kept
    simp [blank]
  | cons w rest =>
    have worded : words content ≠ [] := by
      intro blank
      rw [dropConnector_eq_nil_iff.mpr blank] at kept
      cases kept
    have whole : List.intercalate [' '] (clauseWords content)
        = "WHERE ".toList ++ List.intercalate [' '] (w :: rest) := by
      rw [clauseWords, kept, List.intercalate_cons_cons]
      rfl
    have text : (List.intercalate [' '] (w :: rest)).isEmpty = false := by
      rw [kept] at isWord
      rw [List.isEmpty_eq_false_iff, ne_eq, intercalate_eq_nil_iff isWord]
      exact List.cons_ne_nil w rest
    rw [whole]
    simp only [text, Bool.false_eq_true, if_false, Option.some.injEq]
    constructor
    · rintro rfl
      exact ⟨worded, rfl⟩
    · rintro ⟨_, rfl⟩
      rfl

/-- A block has no clause if it has no word. -/
theorem clause?_eq_none_iff {content : List Char} :
    clause? content = none ↔ words content = [] := by
  rw [← Option.not_isSome_iff_eq_none, Option.isSome_iff_exists]
  constructor
  · intro none
    by_contra worded
    exact none ⟨_, clause?_eq_some_iff.mpr ⟨worded, rfl⟩⟩
  · rintro blank ⟨clause, some⟩
    exact (clause?_eq_some_iff.mp some).1 blank

/-- A clause starts with its keyword and is flattened. -/
theorem clause_flat {content clause : List Char} (h : clause? content = some clause) :
    words clause = clauseWords content ∧ flattenChars clause = clause := by
  obtain ⟨_, rfl⟩ := clause?_eq_some_iff.mp h
  have same : words (List.intercalate [' '] (clauseWords content)) = clauseWords content :=
    words_intercalate fun _ member => isWord_of_mem_clauseWords member
  exact ⟨same, by rw [flattenChars, same]⟩

theorem head?_clause {content clause : List Char} (h : clause? content = some clause) :
    clause.head? = some 'W' := by
  simp only [clause?] at h
  split at h
  · cases h
  · cases h
    rfl

/-- The words of a block are those of its clause. -/
theorem words_blockText (content : List Char) :
    words (blockText content) = if words content = [] then [] else clauseWords content := by
  rw [blockText]
  cases h : clause? content with
  | none => rw [if_pos (clause?_eq_none_iff.mp h), words_nil]
  | some clause =>
    have worded := (clause?_eq_some_iff.mp h).1
    rw [if_neg worded, words_cons_of_blank (by decide), words_append_cons (by decide), words_nil,
      List.append_nil, (clause_flat h).1]

/-- A block never grows together with what stands before it. -/
theorem parted_blockText_right (before content : List Char) :
    parted before (blockText content) = true := by
  rw [blockText]
  split
  · exact parted_cons_right (by decide) _ _
  · exact parted_nil_right before

/-- A block never grows together with what stands behind it. -/
theorem parted_blockText_left (content after : List Char) :
    parted (blockText content) after = true := by
  rw [blockText]
  split
  · exact parted_concat_left (by decide) (' ' :: _) after
  · exact parted_nil_left after

/-! ### Clauses inside a block -/

/-- Words that start with the keyword survive the dropping of a connector. -/
theorem infix_dropConnector {part ws : List (List Char)} (starts : part.head? = some keyword)
    (h : part <:+: ws) : part <:+: dropConnector ws := by
  match ws with
  | [] => exact h
  | [_] => exact h
  | w :: next :: rest =>
    rw [dropConnector]
    split
    · rename_i connector
      rcases List.infix_cons_iff.mp h with first | later
      · -- The first word would be the keyword, which is no connector.
        obtain ⟨more, hmore⟩ := first
        cases part with
        | nil => cases starts
        | cons v part =>
          cases starts
          obtain rfl := (List.cons.inj hmore).1
          exact absurd connector (by decide)
      · exact later
    · exact h

/-- Words of a block's content that start with the keyword are words of the block. -/
theorem infix_words_blockText {part : List (List Char)} {content : List Char}
    (starts : part.head? = some keyword) (h : part <:+: words content) :
    part <:+: words (blockText content) := by
  have worded : words content ≠ [] := by
    intro blank
    rw [blank, List.infix_nil] at h
    rw [h] at starts
    cases starts
  rw [words_blockText, if_neg worded]
  exact List.infix_cons (infix_dropConnector starts h)

theorem infix_of_infix_append {α : Type} {x : α} {part a b : List α} (absent : x ∉ a)
    (h : x :: part <:+: a ++ b) : x :: part <:+: b := by
  induction a with
  | nil => exact h
  | cons y a ih =>
    rw [List.mem_cons, not_or] at absent
    rcases List.infix_cons_iff.mp h with first | later
    · exact absurd (List.cons_prefix_cons.mp first).1 absent.1
    · exact ih absent.2 later

/-- No connector has the first letter of the keyword. -/
theorem not_mem_of_isConnector {w : List Char} (h : isConnector w = true) : 'W' ∉ w := by
  intro member
  have upper : 'W' ∈ w.map Char.toUpper := List.mem_map_of_mem (f := Char.toUpper) member
  rw [isConnector, List.contains_iff_mem] at h
  obtain ⟨k, hk, absent⟩ : ∃ k, w.map Char.toUpper ++ [' '] = k ++ [' '] ∧ 'W' ∉ k := by
    simp only [connectors, List.mem_cons, List.not_mem_nil, or_false] at h
    rcases h with h | h
    · exact ⟨"AND".toList, h, by decide⟩
    · exact ⟨"OR".toList, h, by decide⟩
  rw [List.append_cancel_right hk] at upper
  exact absent upper

/-- A text that starts as the keyword does is not broken by the dropping of a connector. -/
theorem infix_intercalate_dropConnector {part : List Char} {ws : List (List Char)}
    (starts : part.head? = some 'W') (h : part <:+: List.intercalate [' '] ws) :
    part <:+: List.intercalate [' '] (dropConnector ws) := by
  match ws with
  | [] => exact h
  | [_] => exact h
  | w :: next :: rest =>
    rw [dropConnector]
    split
    · rename_i connector
      have absent : 'W' ∉ w ++ [' '] := by
        simp [not_mem_of_isConnector connector]
      rw [List.intercalate_cons_cons] at h
      obtain ⟨more, rfl⟩ := List.head?_eq_some_iff.mp starts
      exact infix_of_infix_append absent h
    · exact h

/-- A flattened text that starts as the keyword does is a part of the block if it
is a part of the block's content. -/
theorem infix_blockText {part content : List Char} (flat : flattenChars part = part)
    (starts : part.head? = some 'W') (h : part <:+: content) : part <:+: blockText content := by
  have kept : part <:+: stripConnector (flattenChars content) := by
    rw [stripConnector_flattenChars]
    exact infix_intercalate_dropConnector starts (infix_flattenChars flat h)
  have worded : (stripConnector (flattenChars content)).isEmpty = false := by
    rw [List.isEmpty_eq_false_iff]
    intro empty
    rw [empty, List.infix_nil] at kept
    rw [kept] at starts
    cases starts
  rw [blockText, clause?]
  simp only [worded, Bool.false_eq_true, if_false]
  apply List.infix_cons
  apply List.infix_append_of_infix_left
  exact kept.trans (List.suffix_append _ _).isInfix

end SqlMapper.Query
