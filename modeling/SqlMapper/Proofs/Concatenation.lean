/-
Module: SqlMapper.Proofs.Concatenation
Purpose: Mapper texts one after the other, and inside of elements that only group.
Main exports: Within, Within.perform, Within.feed, Reader.feed_of_readMarkup,
  parse_append, parse_enclose, parse_append_and_grouped
-/
import SqlMapper.Proofs.Action
import SqlMapper.Proofs.Effect
import SqlMapper.Proofs.StatementIds
import SqlMapper.Proofs.WrittenMarkup

namespace SqlMapper.Markup

open SqlMapper.Document

/-!
A text that can be read on its own leaves nothing open. So it can also be read
after other text and where elements are open: the reader goes through the same
modes, opens the same elements and closes them again. It differs in the places
of things, and at the outermost level in the trees and the text it holds, where
a text may go on one that was begun before. The statements do not depend on
either.
-/

/-- A reader that reads a text on its own, and one that reads it inside of the
open elements `outer` and after `earlier` statements in the innermost of them.
In the elements that the text itself has opened both hold the same. -/
inductive Within (outer : List Frame) (earlier : List Statement) : Reader → Reader → Prop
  | outermost {place place' : Nat} {mode mode' : Mode} {text text' : List Char}
      {siblings siblings' : List Content} (alike : mode'.unplaced = mode.unplaced)
      (statements : statementsOfAll siblings'.reverse
        = earlier ++ statementsOfAll siblings.reverse) :
      Within outer earlier ⟨place, mode, text, siblings, []⟩
        ⟨place', mode', text', siblings', outer⟩
  | inside {place place' : Nat} {mode mode' : Mode} {text : List Char}
      {siblings before before' : List Content} {name : String}
      {attributes : List (String × String)} {frames frames' : List Frame}
      (alike : mode'.unplaced = mode.unplaced)
      (below : Within outer earlier ⟨0, .text, [], before, frames⟩
        ⟨0, .text, [], before', frames'⟩) :
      Within outer earlier ⟨place, mode, text, siblings, ⟨name, attributes, before⟩ :: frames⟩
        ⟨place', mode', text, siblings, ⟨name, attributes, before'⟩ :: frames'⟩

namespace Within

variable {outer : List Frame} {earlier : List Statement} {r r' s : Reader}

theorem alike (h : Within outer earlier r r') : r'.mode.unplaced = r.mode.unplaced := by
  cases h with
  | outermost alike statements => exact alike
  | inside alike below => exact alike

theorem advance (h : Within outer earlier r r') {mode mode' : Mode}
    (same : mode'.unplaced = mode.unplaced) (next next' : Nat) :
    Within outer earlier (r.advance next mode) (r'.advance next' mode') := by
  cases h with
  | outermost alike statements => exact .outermost same statements
  | inside alike below => exact .inside same below

theorem addText (h : Within outer earlier r r') (next next' : Nat) (characters : List Char) :
    Within outer earlier (r.addText next characters) (r'.addText next' characters) := by
  cases h with
  | outermost alike statements => exact .outermost rfl statements
  | inside alike below => exact .inside rfl below

/-- The end of the current text. -/
theorem flush (h : Within outer earlier r r') :
    Within outer earlier ⟨0, .text, [], Reader.flush r.text r.siblings, r.frames⟩
      ⟨0, .text, [], Reader.flush r'.text r'.siblings, r'.frames⟩ := by
  cases h with
  | outermost alike statements =>
    refine .outermost rfl ?_
    rw [statementsOfAll_flush, statementsOfAll_flush, statements]
  | inside alike below => exact .inside rfl below

/-- One more element at the same level. -/
theorem push {siblings siblings' : List Content} {frames frames' : List Frame}
    (h : Within outer earlier ⟨0, .text, [], siblings, frames⟩ ⟨0, .text, [], siblings', frames'⟩)
    (element : Content) (next next' : Nat) :
    Within outer earlier ⟨next, .text, [], element :: siblings, frames⟩
      ⟨next', .text, [], element :: siblings', frames'⟩ := by
  cases h with
  | outermost alike statements =>
    refine .outermost rfl ?_
    rw [statementsOfAll_reverse_cons, statementsOfAll_reverse_cons, statements, List.append_assoc]
  | inside alike below => exact .inside rfl below

/-- The text closes only elements that it has opened. -/
theorem finishEndTag (h : Within outer earlier r r') {next start : Nat} {content : List Char}
    (done : r.finishEndTag next start content = .ok s) (next' start' : Nat) :
    ∃ s', r'.finishEndTag next' start' content = .ok s' ∧ Within outer earlier s s' := by
  cases h with
  | outermost alike statements => cases done
  | inside alike below =>
    simp only [Reader.finishEndTag] at done ⊢
    split at done
    · cases done
      exact ⟨_, if_pos ‹_›, below.push _ _ _⟩
    · cases done

/-- What a character means is done alike by both readers. -/
theorem perform (h : Within outer earlier r r') {effect effect' : Effect}
    (alike : effect.Alike effect') {next : Nat} (done : effect.perform r next = .ok s)
    (next' : Nat) :
    ∃ s', effect'.perform r' next' = .ok s' ∧ Within outer earlier s s' := by
  cases alike with
  | go same =>
    cases done
    exact ⟨_, rfl, h.advance same next next'⟩
  | write characters =>
    cases done
    exact ⟨_, rfl, h.addText next next' characters⟩
  | whole name attributes =>
    cases done
    exact ⟨_, rfl, h.flush.push (.element name attributes []) next next'⟩
  | opening name attributes =>
    cases done
    exact ⟨_, rfl, .inside rfl h.flush⟩
  | endTag start start' content => exact h.finishEndTag done next' start'
  | refuse error error' => cases done

/-- Where a text can be read on its own, it can be read inside of open elements
and after other text. -/
theorem feed (h : Within outer earlier r r') {cs : List Char} (done : r.feed cs = .ok s) :
    ∃ s', r'.feed cs = .ok s' ∧ Within outer earlier s s' := by
  induction cs generalizing r r' with
  | nil =>
    cases done
    exact ⟨r', rfl, h⟩
  | cons c cs ih =>
    rw [Reader.feed, List.foldlM_cons, Reader.step_eq_perform] at done
    cases performed : (r.mode.effect r.offset c).perform r (r.offset + c.utf8Size) with
    | error e =>
      rw [performed] at done
      cases done
    | ok later =>
      rw [performed] at done
      obtain ⟨later', performed', hlater⟩ := h.perform
        (Mode.alike_effect h.alike r.offset r'.offset c) performed
        (r'.offset + c.utf8Size)
      obtain ⟨s', rest, hs⟩ := ih hlater done
      refine ⟨s', ?_, hs⟩
      rw [Reader.feed, foldlM_cons_of_ok ((Reader.step_eq_perform r' c).trans performed')]
      exact rest

end Within

theorem dropByteOrderMark_of_ne {c : Char} (h : c ≠ '\ufeff') (cs : List Char) :
    dropByteOrderMark (c :: cs) = c :: cs := by
  unfold dropByteOrderMark
  split
  · rename_i first
    cases first
    exact absurd rfl h
  · rfl

theorem dropByteOrderMark_append {cs : List Char} (nonempty : cs ≠ []) (rest : List Char) :
    dropByteOrderMark (cs ++ rest) = dropByteOrderMark cs ++ rest := by
  cases cs with
  | nil => exact absurd rfl nonempty
  | cons c cs =>
    by_cases mark : c = '\ufeff'
    · subst mark
      rfl
    · rw [List.cons_append, dropByteOrderMark_of_ne mark, dropByteOrderMark_of_ne mark,
        List.cons_append]

namespace Reader

/-- A text that can be read on its own adds its statements, wherever the reader
stands among text. -/
theorem feed_of_readMarkup {text : String} {contents : List Content}
    (h : readMarkup text = .ok contents) {r : Reader} (among : r.mode = .text) :
    ∃ r', r.feed text.toList = .ok r' ∧ r'.mode = .text ∧ r'.frames = r.frames
      ∧ statementsOfAll r'.siblings.reverse
        = statementsOfAll r.siblings.reverse ++ statementsOfAll contents := by
  obtain ⟨⟨place, _, last, siblings, _⟩, done, rfl, rfl, rfl⟩ := readMarkup_eq_ok.mp h
  have unmarked : ∀ r : Reader, r.mode = .text →
      ∃ r', r.feed (dropByteOrderMark text.toList) = .ok r' ∧ r'.mode = .text
        ∧ r'.frames = r.frames
        ∧ statementsOfAll r'.siblings.reverse
          = statementsOfAll r.siblings.reverse ++ statementsOfAll siblings.reverse := by
    rintro ⟨place, mode, begun, before, frames⟩ rfl
    have within : Within frames (statementsOfAll before.reverse) start
        ⟨place, .text, begun, before, frames⟩ := .outermost rfl (List.append_nil _).symm
    obtain ⟨r', read, hr'⟩ := within.feed done
    cases hr' with
    | outermost alike statements =>
      exact ⟨_, read, Mode.eq_text_of_unplaced alike, rfl, statements⟩
  rw [statementsOfAll_flush]
  -- Only at the start of a text is a byte order mark dropped; later it is text.
  cases hcs : text.toList with
  | nil =>
    rw [hcs] at unmarked
    exact unmarked r among
  | cons c cs =>
    rw [hcs] at unmarked
    by_cases mark : c = '\ufeff'
    · subst mark
      have step : r.step '\ufeff' = .ok (r.addText (r.offset + '\ufeff'.utf8Size) ['\ufeff']) := by
        rw [step_eq_perform, among]
        rfl
      obtain ⟨r', read, later⟩ := unmarked (r.addText _ _) rfl
      exact ⟨r', (foldlM_cons_of_ok step cs).trans read, later⟩
    · rw [dropByteOrderMark_of_ne mark] at unmarked
      exact unmarked r among

end Reader

end SqlMapper.Markup

namespace SqlMapper.Document

open SqlMapper.Markup

/-! ### Mapper texts -/

/-- A text that ends among text, with nothing open, is the document of its statements. -/
theorem parse_of_feed {text : String} {r : Reader}
    (done : Reader.start.feed (dropByteOrderMark text.toList) = .ok r) (among : r.mode = .text)
    (closed : r.frames = []) :
    parse text = .ok ⟨firstOfEachId (statementsOfAll r.siblings.reverse)⟩ := by
  have read := readMarkup_eq_ok.mpr ⟨r, done, among, closed, rfl⟩
  rw [parse, read, Except.map, ofContents, statementsOfAll_flush]

/-- Of two texts one after the other the statements are those of the first, and
those of the second whose id is not taken. -/
theorem parse_append {a b : String} {A B : SqlMapper.Document} (first : parse a = .ok A)
    (second : parse b = .ok B) :
    parse (a ++ b) = .ok ⟨A.statements ++ B.statements.filter fun s => s.id ∉ A.ids⟩ := by
  obtain ⟨contents, readA, rfl⟩ := map_eq_ok_iff.mp first
  obtain ⟨others, readB, rfl⟩ := map_eq_ok_iff.mp second
  obtain ⟨r, done, among, closed, rfl⟩ := readMarkup_eq_ok.mp readA
  obtain ⟨r', read, among', frames, statements⟩ := Reader.feed_of_readMarkup readB among
  by_cases empty : a = ""
  · subst empty
    cases done
    rw [String.empty_append, second]
    simp [ofContents, Document.ids, firstOfEachId, statementsOfAll, Reader.start, Reader.flush]
  · have nonempty : a.toList ≠ [] := by simpa using empty
    have both : Reader.start.feed (dropByteOrderMark (a ++ b).toList) = .ok r' := by
      rw [String.toList_append, dropByteOrderMark_append nonempty, Reader.feed_append_of_ok done,
        read]
    rw [parse_of_feed both among' (frames.trans closed), statements, firstOfEachId_append,
      ofContents, statementsOfAll_flush]
    rfl

/-- An element without attributes around a whole text changes nothing. -/
theorem parse_enclose {name : String} (named : isPlainName name = true) {cs : List Char}
    {d : SqlMapper.Document} (h : parse (String.ofList cs) = .ok d) :
    parse (String.ofList (enclose name cs)) = .ok d := by
  obtain ⟨contents, read, rfl⟩ := map_eq_ok_iff.mp h
  have tag := Reader.isStartTag_plain named
  let opened : Reader := ⟨placeAfter 0 (Reader.openingTag name []), .text, [], [], [⟨name, [], []⟩]⟩
  have opens : Reader.start.feed (Reader.openingTag name []) = .ok opened :=
    Reader.feed_openingTag tag 0 [] [] []
  obtain ⟨⟨place, _, text, siblings, _⟩, inside, rfl, rfl, statements⟩ :=
    Reader.feed_of_readMarkup read (r := opened) rfl
  have closes := @Reader.feed_closingTag ⟨name, [], []⟩ tag.named [] nofun place text siblings []
  rw [String.toList_ofList] at inside
  have whole : dropByteOrderMark (String.ofList (enclose name cs)).toList
      = Reader.openingTag name [] ++ (cs ++ Reader.closingTag name []) := by
    simp [enclose, Reader.openingTag, Reader.closingTag, dropByteOrderMark]
  rw [← Reader.feed_append_of_ok inside, ← Reader.feed_append_of_ok opens, ← whole] at closes
  rw [parse_of_feed closes rfl rfl, List.reverse_singleton, statementsOfAll, statementsOfAll,
    List.append_nil, statementsOf_plain, statementsOfAll_flush, statements]
  rfl

/-- Texts can be put together: one after the other they are the statements of the
first and those of the second whose id is not taken, and elements that only
group, however many, can be put around a text. -/
theorem parse_append_and_grouped {a b : String} {A B : SqlMapper.Document}
    (first : parse a = .ok A) (second : parse b = .ok B) :
    parse (a ++ b) = .ok ⟨A.statements ++ B.statements.filter fun s => s.id ∉ A.ids⟩
      ∧ ∀ names : List String, (∀ name ∈ names, isPlainName name = true) →
          parse (String.ofList (names.foldr enclose a.toList)) = .ok A := by
  refine ⟨parse_append first second, fun names plain => ?_⟩
  induction names with
  | nil => rwa [List.foldr_nil, String.ofList_toList]
  | cons name names ih =>
    rw [List.forall_mem_cons] at plain
    exact parse_enclose plain.1 (ih plain.2)

private def openText : String := "<!-- -->x<m><sql id='a'>1</sql></m><sql id='a'/>"

private def markedText : String := "\ufeff<?p?><m>y<sql ID='a'>2</sql><q id='b'/></m>z"

/-- A byte order mark inside, texts that meet, and groups in groups: the first
statement of each id is found. -/
theorem parse_append_and_grouped_marked :
    parse (openText ++ markedText) = .ok ⟨[⟨"sql", "a", [.text "1"]⟩, ⟨"q", "b", []⟩]⟩
      ∧ parse (String.ofList (["größe", "m"].foldr enclose openText.toList))
        = .ok ⟨[⟨"sql", "a", [.text "1"]⟩]⟩ := by
  have readOpen : readMarkup openText = .ok [.text "x",
      .element "m" [] [.element "sql" [("id", "a")] [.text "1"]],
      .element "sql" [("id", "a")] []] := by rfl
  have readMarked : readMarkup markedText = .ok [.element "m" [] [.text "y",
      .element "sql" [("ID", "a")] [.text "2"], .element "q" [("id", "b")] []], .text "z"] := by rfl
  have first : parse openText = .ok ⟨[⟨"sql", "a", [.text "1"]⟩]⟩ := by
    rw [parse, readOpen]
    rfl
  have second : parse markedText = .ok ⟨[⟨"sql", "a", [.text "2"]⟩, ⟨"q", "b", []⟩]⟩ := by
    rw [parse, readMarked]
    rfl
  have both := parse_append_and_grouped first second
  exact ⟨both.1, both.2 ["größe", "m"] (by decide)⟩

end SqlMapper.Document
