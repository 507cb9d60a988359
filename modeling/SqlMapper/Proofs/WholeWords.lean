/-
Module: SqlMapper.Proofs.WholeWords
Purpose: The clause of a text by its words, and by the bytes that are cut from it.
Main exports: AreWords, areWords_words, cutBytes?, cutBytes?_eq_some_iff, stripBytes,
  clauseOfBytes, clauseOfBytes_eq, clause_by_words
-/
import Mathlib
import SqlMapper.Proofs.GuardedConditions

namespace SqlMapper.Text

/-!
A connector is looked for in as many bytes as it has, and so many are cut off. It is
written in ASCII, where every character is one byte: what equals it up to the case of
letters has as many characters as bytes, so that the cut never falls inside a character.
And since a connector ends with a space, it is taken off only as a whole word that has
another behind it.
-/

/-! ### The words of a text -/

/-- The words of a text: blanks hold none, and otherwise the first one stands behind
blanks and in front of another blank or of the end. -/
inductive AreWords : List Char → List (List Char) → Prop where
  | blanks {cs : List Char} (h : isBlankText cs = true) : AreWords cs []
  | word {indent w rest : List Char} {ws : List (List Char)} (front : isBlankText indent = true)
      (h : IsWord w) (edge : rest.head?.all isBlank = true) (behind : AreWords rest ws) :
      AreWords (indent ++ (w ++ rest)) (w :: ws)

/-- Words with a space between two of them. -/
def joinWords (ws : List (List Char)) : String := " ".intercalate (ws.map String.ofList)

section

variable {cs : List Char} {ws : List (List Char)}

theorem exists_areWords (cs : List Char) : ∃ ws, AreWords cs ws := by
  induction size : cs.length using Nat.strongRecOn generalizing cs with
  | ind n ih =>
    obtain ⟨indent, back, front, start, rfl, -⟩ := exists_span isBlank cs
    obtain ⟨w, rest, visible, edge, rfl, -⟩ := exists_span (! isBlank ·) back
    cases w with
    | nil =>
      -- Nothing stands behind the blanks, for it would start with a character of either kind.
      cases rest with
      | nil => exact ⟨[], .blanks (by simpa [isBlankText] using front)⟩
      | cons c rest => simp_all
    | cons c w =>
      have shorter : rest.length < n := by
        rw [← size]
        simp only [List.length_append, List.length_cons]
        omega
      obtain ⟨ws, behind⟩ := ih rest.length shorter rest rfl
      have word : IsWord (c :: w) := ⟨List.cons_ne_nil c w, by simpa using visible⟩
      refine ⟨(c :: w) :: ws, .word (isBlankText_iff.mpr front) word ?_ behind⟩
      cases rest with
      | nil => rfl
      | cons d rest => simpa using edge

theorem words_of_areWords (h : AreWords cs ws) : words cs = ws := by
  induction h with
  | blanks h => exact words_eq_nil_iff.mpr h
  | @word indent w rest ws front h edge behind ih =>
    have apart : parted w rest = true := by simp [parted, edge]
    rw [words_append_of_isBlankText front, words_append_of_parted apart,
      words_of_isWord h, ih]
    rfl

theorem areWords_words (cs : List Char) : AreWords cs (words cs) := by
  obtain ⟨ws, are⟩ := exists_areWords cs
  rwa [words_of_areWords are]

theorem joinWords_eq (ws : List (List Char)) :
    joinWords ws = String.ofList (List.intercalate [' '] ws) := by
  have texts : (ws.map String.ofList).map String.toList = ws := by simp
  rw [joinWords, ← String.toList_inj, String.toList_intercalate, texts, String.toList_ofList,
    String.toList_ofList]

end

/-! ### Cutting bytes -/

/-- A text cut behind a number of bytes, unless that is inside a character or behind the end. -/
def cutBytes? (text : String) (count : Nat) : Option (String × String) :=
  if valid : String.Pos.Raw.IsValid text ⟨count⟩ then
    let position : text.Pos := ⟨⟨count⟩, valid⟩
    some ((text.sliceTo position).copy, (text.sliceFrom position).copy)
  else none

/-- A cut that falls inside a character or behind the end of the text. -/
structure CutFault where
  text : String
  count : Nat
deriving Repr, Inhabited, DecidableEq

/-- The text without a number of bytes at its start. -/
def dropBytes (text : String) (count : Nat) : Except CutFault String :=
  match cutBytes? text count with
  | some (_, back) => .ok back
  | none => .error ⟨text, count⟩

/-- A cut parts a text into the bytes in front of it and those behind it. -/
theorem cutBytes?_eq_some_iff {text front back : String} {count : Nat} :
    cutBytes? text count = some (front, back)
      ↔ text = front ++ back ∧ front.utf8ByteSize = count := by
  rw [cutBytes?]
  constructor
  · intro cut
    split at cut
    · rename_i valid
      cases cut
      have splits := String.Pos.splits (s := text) ⟨⟨count⟩, valid⟩
      exact ⟨splits.eq_append, (congrArg String.Pos.Raw.byteIdx splits.offset_eq_rawEndPos).symm⟩
    · cases cut
  · rintro ⟨rfl, rfl⟩
    have valid : String.Pos.Raw.IsValid (front ++ back) ⟨front.utf8ByteSize⟩ :=
      String.Pos.Raw.isValid_iff_exists_append.mpr ⟨front, back, rfl, rfl⟩
    have splits := String.Pos.splits (s := front ++ back) ⟨_, valid⟩
    have same : String.Pos.Splits (s := front ++ back) ⟨_, valid⟩ front back := ⟨rfl, rfl⟩
    obtain ⟨left, right⟩ := splits.eq same
    simp only [valid, dite_true, left, right]

/-! ### ASCII -/

/-- What is an ASCII character in capitals is one. -/
theorem utf8Size_of_toUpper {c : Char} (h : c.toUpper.utf8Size = 1) : c.utf8Size = 1 := by
  by_cases lower : c.isLower = true
  · have last : c.val ≤ 122 := (Bool.and_eq_true_iff.mp lower).2 |> of_decide_eq_true
    rw [Char.utf8Size_eq_one_iff]
    exact UInt32.le_trans last (by decide)
  · rwa [Char.toUpper_eq_of_not_isLower lower] at h

/-- ASCII characters none of which is a small letter. -/
def AreCapital (cs : List Char) : Prop := ∀ c ∈ cs, c.toUpper = c ∧ c.utf8Size = 1

section

variable {cs : List Char} {text capitals : String}

/-- ASCII characters are as many as their bytes. -/
theorem utf8ByteSize_ofList (single : ∀ c ∈ cs, c.utf8Size = 1) :
    (String.ofList cs).utf8ByteSize = cs.length := by
  induction cs with
  | nil => rfl
  | cons c cs ih =>
    have whole : String.ofList (c :: cs) = String.singleton c ++ String.ofList cs := by
      simp
    rw [List.forall_mem_cons] at single
    rw [whole, String.utf8ByteSize_append, String.utf8ByteSize_singleton, single.1, ih single.2,
      List.length_cons, Nat.add_comm]

theorem AreCapital.utf8ByteSize (h : AreCapital capitals.toList) :
    capitals.utf8ByteSize = capitals.toList.length := by
  have size := utf8ByteSize_ofList fun c member => (h c member).2
  rwa [String.ofList_toList] at size

/-- A text equals capitals up to the case of letters if its capitals are these. -/
theorem AreCapital.sameLetters_iff (h : AreCapital capitals.toList) :
    sameLetters text capitals = true ↔ text.toList.map Char.toUpper = capitals.toList := by
  have kept : capitals.toList.map Char.toUpper = capitals.toList :=
    (List.map_congr_left fun c member => (h c member).1).trans (List.map_id _)
  have raised : Char.toUpper ∘ Char.toLower = Char.toUpper := funext Char.toUpper_toLower_eq_toUpper
  have lowered : Char.toLower ∘ Char.toUpper = Char.toLower := funext Char.toLower_toUpper_eq_toLower
  rw [sameLetters, beq_iff_eq]
  constructor
  · intro same
    have upper := congrArg (List.map Char.toUpper) same
    rwa [List.map_map, List.map_map, raised, kept] at upper
  · intro same
    rw [← same, List.map_map, lowered]

end

end SqlMapper.Text

namespace SqlMapper.Query

open SqlMapper.Text

/-! ### The clause by bytes -/

/-- The text without the first of some connectors that its bytes start with, up to the case
of letters. -/
def stripBytes (text : String) : List String → Except CutFault String
  | [] => .ok text
  | connector :: others =>
      let count := connector.utf8ByteSize
      if (cutBytes? text count).any fun cut => sameLetters cut.1 connector then
        dropBytes text count
      else stripBytes text others

/-- The clause of a block with some content, where a connector is cut off as bytes. -/
def clauseOfBytes (content : String) : Except CutFault (Option String) :=
  (stripBytes (flatten content) ["AND ", "OR "]).map fun text =>
    if text.isEmpty then none else some ("WHERE " ++ text)

section

variable {text connector : String}

/-- A text that starts with a connector is cut behind it. -/
theorem cutBytes?_of_startsWithConnector (capital : AreCapital connector.toList)
    (starts : startsWithConnector text.toList connector.toList = true) :
    cutBytes? text connector.utf8ByteSize
      = some (String.ofList (text.toList.take connector.toList.length),
        String.ofList (text.toList.drop connector.toList.length)) := by
  rw [startsWithConnector, beq_iff_eq] at starts
  have single : ∀ c ∈ text.toList.take connector.toList.length, c.utf8Size = 1 := by
    intro c member
    apply utf8Size_of_toUpper
    exact (capital c.toUpper (starts ▸ List.mem_map_of_mem member)).2
  have length := congrArg List.length starts
  rw [List.length_map] at length
  apply cutBytes?_eq_some_iff.mpr
  constructor
  · rw [← String.ofList_append, List.take_append_drop, String.ofList_toList]
  · rw [utf8ByteSize_ofList single, length, capital.utf8ByteSize]

/-- The bytes of a connector are found where its characters are. -/
theorem any_cutBytes?_eq (capital : AreCapital connector.toList) :
    ((cutBytes? text connector.utf8ByteSize).any fun cut => sameLetters cut.1 connector)
      = startsWithConnector text.toList connector.toList := by
  rw [Bool.eq_iff_iff]
  constructor
  · intro found
    cases cut : cutBytes? text connector.utf8ByteSize with
    | none =>
      rw [cut] at found
      cases found
    | some parts =>
      obtain ⟨front, back⟩ := parts
      obtain ⟨rfl, -⟩ := cutBytes?_eq_some_iff.mp cut
      rw [cut, Option.any_some, capital.sameLetters_iff] at found
      rw [startsWithConnector_iff, ← found, String.toList_append, List.map_append]
      exact List.prefix_append _ _
  · intro starts
    rw [cutBytes?_of_startsWithConnector capital starts, Option.any_some, capital.sameLetters_iff,
      String.toList_ofList]
    rwa [startsWithConnector, beq_iff_eq] at starts

/-- Connectors are cut off as bytes where they are dropped as characters. -/
theorem stripBytes_eq {connectors : List String}
    (capital : ∀ connector ∈ connectors, AreCapital connector.toList) (text : String) :
    stripBytes text connectors
      = .ok (String.ofList
        (match (connectors.map String.toList).find? (startsWithConnector text.toList) with
          | some connector => text.toList.drop connector.length
          | none => text.toList)) := by
  induction connectors with
  | nil => exact congrArg Except.ok String.ofList_toList.symm
  | cons connector others ih =>
    rw [List.forall_mem_cons] at capital
    rw [stripBytes, any_cutBytes?_eq capital.1, List.map_cons, List.find?_cons]
    cases starts : startsWithConnector text.toList connector.toList with
    | true =>
      rw [dropBytes, cutBytes?_of_startsWithConnector capital.1 starts]
      rfl
    | false => exact ih capital.2

end

theorem ofList_keyword (cs : List Char) :
    String.ofList ("WHERE ".toList ++ cs) = "WHERE " ++ String.ofList cs := by
  rw [String.ofList_append, String.ofList_toList]

theorem ofList_clause (cs : List Char) :
    (if (String.ofList cs).isEmpty then none else some ("WHERE " ++ String.ofList cs))
      = (if cs.isEmpty then none else some ("WHERE ".toList ++ cs)).map String.ofList := by
  have blank : (String.ofList cs).isEmpty = cs.isEmpty := by
    rw [Bool.eq_iff_iff, String.isEmpty_iff, List.isEmpty_iff, ← String.toList_eq_nil_iff,
      String.toList_ofList]
  rw [← ofList_keyword, blank]
  split <;> rfl

theorem areCapital_connectors : ∀ connector ∈ ["AND ", "OR "], AreCapital connector.toList := by
  simp [AreCapital, Char.toUpper, Char.utf8Size]

/-- No cut falls inside a character, and the clause is that of the characters. -/
theorem clauseOfBytes_eq (content : String) :
    clauseOfBytes content = .ok (whereClause? content) := by
  have stripped : stripBytes (flatten content) ["AND ", "OR "]
      = .ok (String.ofList (stripConnector (flattenChars content.toList))) := by
    rw [stripBytes_eq areCapital_connectors, toList_flatten]
    rfl
  rw [clauseOfBytes, stripped, whereClause?, clause?]
  exact congrArg Except.ok (ofList_clause _)

/-! ### The clause by words -/

theorem dropConnector_of_not_joinsConditions {ws : List (List Char)}
    (other : ∀ w next rest, ws = w :: next :: rest → ¬ joinsConditions w) :
    dropConnector ws = ws := by
  rcases ws with - | ⟨w, - | ⟨next, rest⟩⟩
  · rfl
  · rfl
  · have connector : ¬ isConnector w = true := mt isConnector_iff.mp (other w next rest rfl)
    rw [dropConnector, if_neg connector]

section

variable {content : String}

theorem whereClause?_eq_none_iff : whereClause? content = none ↔ words content.toList = [] := by
  rw [whereClause?, Option.map_eq_none_iff, clause?_eq_none_iff]

/-- If there is a word, the clause is made of the words without a connector in front. -/
theorem whereClause?_of_words (worded : words content.toList ≠ []) :
    whereClause? content
      = some ("WHERE " ++ joinWords (dropConnector (words content.toList))) := by
  have kept : dropConnector (words content.toList) ≠ [] := mt dropConnector_eq_nil_iff.mp worded
  have set (cs : List Char) : keyword ++ ' ' :: cs = "WHERE ".toList ++ cs := by rfl
  rw [whereClause?, clause?_eq_some_iff.mpr ⟨worded, rfl⟩, Option.map_some, clauseWords,
    intercalate_cons_of_ne_nil keyword kept, joinWords_eq, set, ofList_keyword]

end

/-- The clause of a block follows from the words of its content. Without a word there is none.
If the first of several words is `AND` or `OR`, in any case of its letters, the clause is made
of the others, and otherwise of all. It is cut off as bytes, and no cut falls inside a
character. -/
theorem clause_by_words (content : String) :
    clauseOfBytes content = .ok (whereClause? content)
      ∧ (∃ ws, AreWords content.toList ws)
      ∧ ∀ ws, AreWords content.toList ws →
        (whereClause? content = none ↔ ws = [])
          ∧ (∀ w next rest, ws = w :: next :: rest → joinsConditions w →
            whereClause? content = some ("WHERE " ++ joinWords (next :: rest)))
          ∧ (ws ≠ [] → (∀ w next rest, ws = w :: next :: rest → ¬ joinsConditions w) →
            whereClause? content = some ("WHERE " ++ joinWords ws)) := by
  refine ⟨clauseOfBytes_eq content, exists_areWords _, ?_⟩
  intro ws are
  obtain rfl := words_of_areWords are
  refine ⟨whereClause?_eq_none_iff, ?_, ?_⟩
  · intro w next rest whole joins
    have connector := isConnector_iff.mpr joins
    have worded : words content.toList ≠ [] := by simp [whole]
    rw [whereClause?_of_words worded, whole, dropConnector, if_pos connector]
  · intro worded other
    rw [whereClause?_of_words worded, dropConnector_of_not_joinsConditions other]

/-- A connector before another one and behind blanks of several kinds, a character of three
bytes where a connector might end, a connector alone, and blanks alone. -/
theorem clause_by_words_mixed :
    clauseOfBytes "\t aNd\u00a0 OR\n x " = .ok (some "WHERE OR x")
      ∧ clauseOfBytes "OR日 1" = .ok (some "WHERE OR日 1")
      ∧ clauseOfBytes " and " = .ok (some "WHERE and")
      ∧ clauseOfBytes "\u3000" = .ok none := by
  obtain ⟨connector, -, first⟩ := clause_by_words "\t aNd\u00a0 OR\n x "
  obtain ⟨other, -, second⟩ := clause_by_words "OR日 1"
  obtain ⟨alone, -, third⟩ := clause_by_words " and "
  obtain ⟨blank, -, fourth⟩ := clause_by_words "\u3000"
  have dropped := (first _ (areWords_words _)).2.1 "aNd".toList "OR".toList ["x".toList] rfl
    (by decide)
  have kept := (second _ (areWords_words _)).2.2 (by decide)
  have single := (third _ (areWords_words _)).2.2 (by decide)
  refine ⟨?_, ?_, ?_, ?_⟩
  · rw [connector, dropped]
    rfl
  · rw [other, kept]
    · rfl
    · rintro w next rest whole
      cases whole
      decide
  · rw [alone, single]
    · rfl
    · rintro w next rest whole
      cases whole
  · rw [blank, (fourth _ (areWords_words _)).1.mpr rfl]

end SqlMapper.Query
