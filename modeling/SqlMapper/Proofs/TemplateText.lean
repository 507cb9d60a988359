/-
Module: SqlMapper.Proofs.TemplateText
Purpose: The SQL of a statement is the text of its template: none of it is lost, doubled or moved.
Main exports: Piece, Writes, Writes.unique, Piece.contribution, writtenAs_of_render,
  letters_writtenAll, template_text_kept
-/
import SqlMapper.Proofs.ClauseWords
import SqlMapper.Proofs.Course
import SqlMapper.Proofs.Reflow

namespace SqlMapper.Query

open SqlMapper.Document SqlMapper.Parameter SqlMapper.Text

/-!
What a rendering comes to is written down as pieces, in the order in which it
comes to them: texts, and for each inclusion and each block the pieces inside.
The letters of the SQL can be read off the pieces. Each text contributes its own,
and so does everything in an inclusion; only a block puts a keyword in front and
may leave out its first word, and for that word alone the blanks are needed.
-/

/-! ### Pieces -/

/-- A piece of a template that a rendering comes to. -/
inductive Piece where
  | text (characters : List Char)
  | inclusion (pieces : List Piece)
  | block (pieces : List Piece)
deriving Repr, Inhabited

/-- The pieces that a rendering comes to in some nodes, in order. What is pruned
leaves an empty text. -/
inductive Writes (d : SqlMapper.Document) (bag : Bag) : List Node → List Piece → Prop where
  | nil : Writes d bag [] []
  | write {node : Node} {rest : List Node} {text : List Char} {later : List Piece}
      (written : action bag node = .write text) (behind : Writes d bag rest later) :
      Writes d bag (node :: rest) (.text text :: later)
  | enter {node : Node} {nodes rest : List Node} {inner later : List Piece}
      (entered : action bag node = .enter nodes) (inside : Writes d bag nodes inner)
      (behind : Writes d bag rest later) : Writes d bag (node :: rest) (inner ++ later)
  | block {node : Node} {nodes rest : List Node} {inner later : List Piece}
      (entered : action bag node = .block nodes) (inside : Writes d bag nodes inner)
      (behind : Writes d bag rest later) : Writes d bag (node :: rest) (.block inner :: later)
  | inclusion {node : Node} {refid : String} {s : Statement} {rest : List Node}
      {inner later : List Piece} (named : action bag node = .inclusion refid)
      (found : d.statement? refid = some s) (inside : Writes d bag s.body inner)
      (behind : Writes d bag rest later) : Writes d bag (node :: rest) (.inclusion inner :: later)

/-- The text of a block that holds some words. -/
def textOfBlock : List (List Char) → List Char
  | [] => []
  | ws => ' ' :: (List.intercalate [' '] (keyword :: dropConnector ws) ++ [' '])

mutual

/-- What a piece writes: an inclusion without the blanks at its ends, and a block
between spaces. -/
def Piece.written : Piece → List Char
  | .text characters => characters
  | .inclusion pieces => trim (writtenAll pieces)
  | .block pieces => textOfBlock (words (writtenAll pieces))

/-- What pieces write, one after the other. -/
def writtenAll : List Piece → List Char
  | [] => []
  | piece :: rest => piece.written ++ writtenAll rest

end

/-- Whether a word is `AND` or `OR`, in any case of its letters. -/
def joinsConditions (w : List Char) : Prop :=
  w.map Char.toUpper = "AND".toList ∨ w.map Char.toUpper = "OR".toList

instance : DecidablePred joinsConditions := fun w =>
  inferInstanceAs (Decidable (w.map Char.toUpper = "AND".toList
    ∨ w.map Char.toUpper = "OR".toList))

mutual

/-- The letters that a piece contributes. A block with some word contributes the
keyword and what it holds, without a first word that joins conditions if there is
another word. -/
def Piece.contribution : Piece → List Char
  | .text characters => letters characters
  | .inclusion pieces => contributions pieces
  | .block pieces =>
      match words (writtenAll pieces) with
      | [] => []
      | [_] => keyword ++ contributions pieces
      | first :: _ :: _ =>
          if joinsConditions first then keyword ++ (contributions pieces).drop first.length
          else keyword ++ contributions pieces

/-- The letters that pieces contribute, one after the other. -/
def contributions : List Piece → List Char
  | [] => []
  | piece :: rest => piece.contribution ++ contributions rest

end

/-! ### The letters of what is written -/

theorem isConnector_iff {w : List Char} : isConnector w = true ↔ joinsConditions w := by
  rw [isConnector, List.contains_iff_mem, joinsConditions]
  simp only [connectors, List.mem_cons, List.not_mem_nil, or_false]
  have ended : ∀ k : List Char, w.map Char.toUpper ++ [' '] = k ++ [' '] ↔ w.map Char.toUpper = k :=
    fun k => List.append_left_inj [' ']
  exact or_congr (ended "AND".toList) (ended "OR".toList)

/-- The letters of a block are the keyword and the letters of the words that it keeps. -/
theorem letters_textOfBlock {ws : List (List Char)} (isWord : ∀ w ∈ ws, IsWord w)
    (worded : ws ≠ []) :
    letters (textOfBlock ws) = keyword ++ (dropConnector ws).flatten := by
  have kept : ∀ w ∈ keyword :: dropConnector ws, IsWord w := by
    intro w member
    rcases List.mem_cons.mp member with rfl | later
    · exact isWord_keyword
    · exact isWord w (mem_dropConnector later)
  cases ws with
  | nil => exact absurd rfl worded
  | cons first others =>
    rw [textOfBlock, letters_eq_flatten_words, words_cons_of_blank (by decide),
      words_append_cons (by decide), words_nil, List.append_nil, words_intercalate kept,
      List.flatten_cons]
    simp

mutual

theorem letters_written : ∀ piece : Piece, letters piece.written = piece.contribution
  | .text characters => by
      rw [Piece.written, Piece.contribution]
  | .inclusion pieces => by
      rw [Piece.written, Piece.contribution, letters_trim, letters_writtenAll pieces]
  | .block pieces => by
      have inside := letters_writtenAll pieces
      have isWord : ∀ w ∈ words (writtenAll pieces), IsWord w :=
        fun _ member => isWord_of_mem_words member
      rw [letters_eq_flatten_words] at inside
      rw [Piece.written, Piece.contribution]
      match hwords : words (writtenAll pieces) with
      | [] => rfl
      | [first] =>
        rw [hwords] at inside isWord
        rw [letters_textOfBlock isWord (by simp), ← inside]
        rfl
      -- The letters of the first word are the first letters of the block.
      | first :: next :: others =>
        rw [hwords] at inside isWord
        rw [letters_textOfBlock isWord (by simp), ← inside, dropConnector]
        by_cases joins : joinsConditions first
        · rw [if_pos (isConnector_iff.mpr joins)]
          simp [joins]
        · rw [if_neg (isConnector_iff.not.mpr joins)]
          simp [joins]

/-- The letters of what pieces write are those that they contribute. -/
theorem letters_writtenAll : ∀ pieces, letters (writtenAll pieces) = contributions pieces
  | [] => by
      rw [writtenAll, contributions]
      rfl
  | piece :: rest => by
      rw [writtenAll, contributions, letters_append, letters_written piece,
        letters_writtenAll rest]

end

/-! ### The pieces of a rendering -/

section

variable {d : SqlMapper.Document} {file : String} {bag : Bag}

/-- What a body with a first node writes, by what the bag makes of that node. -/
theorem Writes.cons_cases {node : Node} {rest : List Node} {pieces : List Piece}
    (h : Writes d bag (node :: rest) pieces) :
    match action bag node with
    | .write text => ∃ later, Writes d bag rest later ∧ pieces = .text text :: later
    | .enter nodes =>
        ∃ inner later, Writes d bag nodes inner ∧ Writes d bag rest later ∧ pieces = inner ++ later
    | .block nodes =>
        ∃ inner later, Writes d bag nodes inner ∧ Writes d bag rest later
          ∧ pieces = .block inner :: later
    | .inclusion refid =>
        ∃ s inner later, d.statement? refid = some s ∧ Writes d bag s.body inner
          ∧ Writes d bag rest later ∧ pieces = .inclusion inner :: later
    | .refuse _ => False := by
  cases h with
  | write written behind =>
    rw [written]
    exact ⟨_, behind, rfl⟩
  | enter entered inside behind =>
    rw [entered]
    exact ⟨_, _, inside, behind, rfl⟩
  | block entered inside behind =>
    rw [entered]
    exact ⟨_, _, inside, behind, rfl⟩
  | inclusion named found inside behind =>
    rw [named]
    exact ⟨_, _, _, found, inside, behind, rfl⟩

/-- There is one way to write the pieces of a body. -/
theorem Writes.unique {nodes : List Node} {pieces other : List Piece}
    (h : Writes d bag nodes pieces) (h' : Writes d bag nodes other) : other = pieces := by
  induction h generalizing other with
  | nil =>
    cases h'
    rfl
  | write written _ ihBehind =>
    have same := h'.cons_cases
    rw [written] at same
    obtain ⟨later, behind, rfl⟩ := same
    rw [ihBehind behind]
  | enter entered _ _ ihInside ihBehind =>
    have same := h'.cons_cases
    rw [entered] at same
    obtain ⟨inner, later, inside, behind, rfl⟩ := same
    rw [ihInside inside, ihBehind behind]
  | block entered _ _ ihInside ihBehind =>
    have same := h'.cons_cases
    rw [entered] at same
    obtain ⟨inner, later, inside, behind, rfl⟩ := same
    rw [ihInside inside, ihBehind behind]
  | inclusion named found _ _ ihInside ihBehind =>
    have same := h'.cons_cases
    rw [named] at same
    obtain ⟨s, inner, later, found', inside, behind, rfl⟩ := same
    rw [found] at found'
    cases found'
    rw [ihInside inside, ihBehind behind]

theorem writtenAll_append (pieces more : List Piece) :
    writtenAll (pieces ++ more) = writtenAll pieces ++ writtenAll more := by
  induction pieces with
  | nil => rfl
  | cons piece pieces ih =>
    rw [List.cons_append, writtenAll, writtenAll, ih, List.append_assoc]

/-- A block depends on the words in it alone. -/
theorem blockText_eq (content : List Char) : blockText content = textOfBlock (words content) := by
  rw [blockText]
  cases h : clause? content with
  | none =>
    rw [clause?_eq_none_iff.mp h]
    rfl
  | some clause =>
    obtain ⟨worded, rfl⟩ := clause?_eq_some_iff.mp h
    simp only [clauseWords]
    cases hwords : words content with
    | nil => exact absurd hwords worded
    | cons first others => rfl

/-- Some nodes write pieces that have, but for the layout, a text. -/
def WrittenAs (d : SqlMapper.Document) (bag : Bag) (nodes : List Node) (text : List Char) : Prop :=
  ∃ pieces, Writes d bag nodes pieces ∧ Reflowed text (writtenAll pieces)

/-- A node that is rendered puts its pieces in front of those behind it, if the
nodes that it stands for and the statement that it includes are written as they
are rendered. -/
theorem exists_writes_of_node {chain : List String} {node : Node} {first : List Char}
    (ihNodes : ∀ text, (Point.mk chain (action bag node).nodes).render d file bag = .ok text →
      WrittenAs d bag (action bag node).nodes text)
    (ihInclusion : ∀ refid s, refid ∉ chain → d.statement? refid = some s → ∀ text,
      (Point.mk (chain ++ [refid]) s.body).render d file bag = .ok text →
        WrittenAs d bag s.body text)
    (ok : renderNode bag (inclusionText d file bag chain) node = .ok first) :
    ∃ pieces, Reflowed first (writtenAll pieces)
      ∧ ∀ rest later, Writes d bag rest later → Writes d bag (node :: rest) (pieces ++ later) := by
  rw [renderNode_eq_perform] at ok
  cases haction : action bag node with
  | write text =>
    rw [haction] at ok
    obtain rfl : text = first := Except.ok.inj ok
    refine ⟨[.text text], ?_, fun _ _ behind => .write haction behind⟩
    simp only [writtenAll, Piece.written, List.append_nil]
    exact .refl text
  | enter nodes =>
    rw [haction] at ok ihNodes
    obtain ⟨inner, inside, layout⟩ := ihNodes first ok
    exact ⟨inner, layout, fun _ _ behind => .enter haction inside behind⟩
  | block nodes =>
    rw [haction] at ok ihNodes
    obtain ⟨content, hcontent, rfl⟩ := map_eq_ok_iff.mp ok
    obtain ⟨inner, inside, layout⟩ := ihNodes content hcontent
    refine ⟨[.block inner], ?_, fun _ _ behind => .block haction inside behind⟩
    simp only [writtenAll, Piece.written, List.append_nil, blockText_eq, layout.words_eq]
    exact .refl _
  | inclusion refid =>
    rw [haction, Action.perform, inclusionText_eq_ok_iff] at ok
    obtain ⟨off, s, found, body⟩ := ok
    rw [renderBody_eq] at body
    obtain ⟨text, htext, rfl⟩ := map_eq_ok_iff.mp body
    obtain ⟨inner, inside, layout⟩ := ihInclusion refid s off found text htext
    refine ⟨[.inclusion inner], ?_, fun _ _ behind => .inclusion haction found inside behind⟩
    simp only [writtenAll, Piece.written, List.append_nil]
    rw [layout.flattenChars_eq]
    exact (reflowed_trim _).symm
  | refuse error =>
    rw [haction] at ok
    cases ok

/-- What is rendered at a point is written there, but for the layout. -/
theorem writtenAs_of_render {chain : List String} {nodes : List Node} {text : List Char}
    (ok : (Point.mk chain nodes).render d file bag = .ok text) : WrittenAs d bag nodes text := by
  -- Each inclusion makes the chain longer, which is the recursion of `renderBody`.
  induction chain, nodes using renderBody.induct d file bag generalizing text with
  | case1 chain nodes ihInclusion =>
    induction nodes using nodes_induction bag generalizing text with
    | nil =>
      simp only [Point.render, renderNodes, Except.ok.injEq] at ok
      exact ⟨[], .nil, ok ▸ .nil⟩
    | cons node rest ihNodes ihRest =>
      obtain ⟨first, later, hfirst, hlater, rfl⟩ := renderNodes_cons_eq_ok_iff.mp ok
      obtain ⟨front, frontLayout, inFront⟩ := exists_writes_of_node (fun _ => ihNodes)
        (fun refid s off found _ => ihInclusion refid off s found) hfirst
      obtain ⟨back, behind, backLayout⟩ := ihRest hlater
      refine ⟨front ++ back, inFront rest back behind, ?_⟩
      rw [writtenAll_append]
      exact frontLayout.append backLayout

end

/-- No text of a template is lost, doubled or moved. The SQL of a statement is
flat, and its letters are those that the pieces of the rendering contribute, each
in its place. -/
theorem template_text_kept {d : SqlMapper.Document} {file : String} {bag : Bag} {s : Statement}
    {sql : String} (rendered : renderStatement d file bag s = .ok sql) :
    IsFlat sql.toList
      ∧ ∃ pieces, (∀ other, Writes d bag s.body other ↔ other = pieces)
        ∧ letters sql.toList = contributions pieces := by
  obtain ⟨body, hbody, rfl⟩ := map_eq_ok_iff.mp rendered
  rw [renderBody_eq] at hbody
  obtain ⟨text, htext, rfl⟩ := map_eq_ok_iff.mp hbody
  rw [String.toList_ofList]
  refine ⟨isFlat_flattenChars text, ?_⟩
  obtain ⟨pieces, writes, layout⟩ : WrittenAs d bag s.body text := writtenAs_of_render htext
  refine ⟨pieces, ?_, ?_⟩
  · intro other
    constructor
    · exact writes.unique
    · rintro rfl
      exact writes
  · calc letters (flattenChars text) = letters text := letters_flattenChars text
      _ = letters (writtenAll pieces) := layout.letters_eq
      _ = contributions pieces := letters_writtenAll pieces

private def spacedColumn : Statement := ⟨"sql", "column", [.text "\n  a\n"]⟩

private def columnTwice : Statement :=
  ⟨"select", "twice", [.text "SELECT", .text " ", .inclusion "column",
    .whereBlock [.text "And ", .inclusion "column"]]⟩

/-- A statement that is included twice, the second time as all of a condition. -/
theorem template_text_kept_twice :
    let d : SqlMapper.Document := ⟨[columnTwice, spacedColumn]⟩
    let bag : Bag := fun _ => none
    let column : Piece := .inclusion [.text "\n  a\n".toList]
    renderStatement d "Test" bag columnTwice = .ok "SELECT a WHERE a"
      ∧ IsFlat "SELECT a WHERE a".toList
      ∧ letters "SELECT a WHERE a".toList
        = contributions [.text "SELECT".toList, .text " ".toList, column,
          .block [.text "And ".toList, column]] := by
  intro d bag column
  have included : inclusionText d "Test" bag ["twice"] "column" = .ok "a".toList := by
    rw [inclusionText_of_found (by decide) rfl, renderBody_eq]
    rfl
  have nodes : renderNodes bag (inclusionText d "Test" bag ["twice"]) columnTwice.body
      = .ok "SELECT a WHERE a ".toList := by
    simp only [columnTwice, renderNodes, renderNode, included]
    rfl
  have rendered : renderStatement d "Test" bag columnTwice = .ok "SELECT a WHERE a" := by
    rw [renderStatement, renderBody_eq]
    exact congrArg (fun text => (text.map flattenChars).map String.ofList) nodes
  have writesColumn : Writes d bag spacedColumn.body [.text "\n  a\n".toList] :=
    .write rfl .nil
  have writes : Writes d bag columnTwice.body [.text "SELECT".toList, .text " ".toList, column,
      .block [.text "And ".toList, column]] :=
    .write rfl <| .write rfl <| .inclusion rfl rfl writesColumn <|
      .block rfl (.write rfl <| .inclusion rfl rfl writesColumn .nil) .nil
  obtain ⟨flat, pieces, only, kept⟩ := template_text_kept rendered
  rw [← (only _).mp writes] at kept
  exact ⟨rendered, flat, kept⟩

end SqlMapper.Query
