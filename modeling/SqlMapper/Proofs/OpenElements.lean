/-
Module: SqlMapper.Proofs.OpenElements
Purpose: A text with elements left open names the innermost of them, and is completed by their
  end tags.
Main exports: openElements, endTags, lastPathAll, readMarkup_eq_unclosedTag_iff, feed_endTags,
  parse_of_opened, unclosed_tags_innermost_first
-/
import SqlMapper.Proofs.Concatenation
import SqlMapper.Proofs.EventReading

namespace SqlMapper.Markup

open SqlMapper.Document SqlMapper.Text

/-!
A text that ends inside of elements is in order up to there: the only thing said
against it is the name of the innermost element. Its end tag leaves the next one
as the innermost, so that all end tags in this order make a text that can be
read. Then the elements stand one in the other, each behind whatever else is in
the one around it. The other way round, a start tag in front of a text that can
be read leaves its own element open and nothing else.
-/

/-- The names of the elements that are open at the end of a text, innermost first. -/
def openElements (text : String) : List String :=
  match EventReader.start.feed (dropByteOrderMark text.toList) with
  | .ok r => r.builder.stack.map (·.name)
  | .error _ => []

/-- The end tags of elements, one after the other. -/
def endTags : List String → String
  | [] => ""
  | name :: names => "</" ++ name ++ ">" ++ endTags names

mutual

/-- The names of an element that stands last, of the one that stands last in it, and so on. -/
def Content.lastPath : Content → List String
  | .text _ => []
  | .element name _ children => name :: lastPathAll children

/-- The way from the last of some trees to the last element in it. -/
def lastPathAll : List Content → List String
  | [] => []
  | [content] => content.lastPath
  | _ :: next :: rest => lastPathAll (next :: rest)

end

theorem lastPathAll_concat (front : List Content) (last : Content) :
    lastPathAll (front ++ [last]) = last.lastPath := by
  induction front with
  | nil => rw [List.nil_append, lastPathAll]
  | cons content rest ih =>
    cases rest with
    | nil => rw [List.singleton_append, lastPathAll, lastPathAll]
    | cons next rest => rwa [List.cons_append, List.cons_append, lastPathAll, ← List.cons_append]

/-! ### Texts that end inside of elements -/

namespace Reader

/-- A character is refused only because it makes the text malformed. -/
theorem malformed_of_step {r : Reader} {c : Char} {e : MarkupError} (h : r.step c = .error e) :
    ∃ position cause, e = .malformed position cause := by
  rw [step_eq_perform] at h
  cases completed : r.mode.completed? c with
  | none =>
    have isLocal := Mode.isLocal_effect r.offset completed
    generalize r.mode.effect r.offset c = effect at isLocal h
    cases isLocal with
    | go mode => cases h
    | write characters => cases h
    | refuse position cause =>
      cases h
      exact ⟨position, cause, rfl⟩
  | some piece =>
    rw [Mode.effect_of_completed r.offset completed] at h
    cases piece with
    | startTag content =>
      simp only [Piece.effect, startTagEffect] at h
      split at h
      · cases h
        exact ⟨0, _, rfl⟩
      · split at h <;> cases h
    | endTag start content =>
      simp only [Piece.effect, Effect.perform, finishEndTag] at h
      split at h
      · cases h
        exact ⟨start, _, rfl⟩
      · split at h
        · cases h
        · cases h
          exact ⟨start, _, rfl⟩
    | reference name =>
      simp only [Piece.effect, referenceEffect] at h
      split at h
      · cases h
      · cases h
        exact ⟨0, _, rfl⟩

theorem malformed_of_feed {r : Reader} {cs : List Char} {e : MarkupError}
    (h : r.feed cs = .error e) : ∃ position cause, e = .malformed position cause := by
  induction cs generalizing r with
  | nil => cases h
  | cons c cs ih =>
    rw [feed, List.foldlM_cons] at h
    cases done : r.step c with
    | error other =>
      rw [done] at h
      cases h
      exact malformed_of_step done
    | ok later =>
      rw [done] at h
      exact ih h

end Reader

/-- The only thing said against a text is an open element if it ends among text
and the element is the innermost that is open there. -/
theorem readMarkup_eq_unclosedTag_iff {text name : String} :
    readMarkup text = .error (.unclosedTag name)
      ↔ ∃ r frame frames, Reader.start.feed (dropByteOrderMark text.toList) = .ok r
        ∧ r.mode = .text ∧ r.frames = frame :: frames ∧ frame.name = name := by
  unfold readMarkup
  cases read : Reader.start.feed (dropByteOrderMark text.toList) with
  | error e =>
    obtain ⟨position, cause, rfl⟩ := Reader.malformed_of_feed read
    simp
  | ok r =>
    obtain ⟨place, mode, text, siblings, frames⟩ := r
    cases mode with
    | text => cases frames <;> simp [Reader.finish]
    | _ => simp [Reader.finish]

/-- The open elements are those of the reader. -/
theorem openElements_of_feed {text : String} {r : Reader}
    (h : Reader.start.feed (dropByteOrderMark text.toList) = .ok r) :
    openElements text = r.frames.map (·.name) := by
  have read : EventReader.start.feed (dropByteOrderMark text.toList) = .ok r.toEvents := by
    rw [EventReader.feed_start, h]
    rfl
  rw [openElements, read]
  exact TreeBuilder.map_name_ofFrames _ _

/-! ### Tags with plain names -/

namespace Reader

/-- A start tag with a plain name, which may be empty, opens its element. -/
theorem feed_openingTag_plain {name : String} (plain : name.toList.all isPlain = true)
    (place : Nat) (text : List Char) (siblings : List Content) (frames : List Frame) :
    feed ⟨place, .text, text, siblings, frames⟩ (openingTag name [])
      = .ok ⟨placeAfter place (openingTag name []), .text, [], [],
          ⟨name, [], flush text siblings⟩ :: frames⟩ := by
  by_cases empty : name = ""
  · subst empty
    rfl
  · have named : isPlainName name = true := by simp [isPlainName, empty, plain]
    exact feed_openingTag (isStartTag_plain named) place text siblings frames

/-- An end tag with a plain name, which may be empty, closes the element with that name. -/
theorem feed_closingTag_plain {frame : Frame} (plain : frame.name.toList.all isPlain = true)
    (place : Nat) (text : List Char) (siblings : List Content) (frames : List Frame) :
    feed ⟨place, .text, text, siblings, frame :: frames⟩ (closingTag frame.name [])
      = .ok ⟨placeAfter place (closingTag frame.name []), .text, [],
          .element frame.name frame.attributes (flush text siblings).reverse :: frame.before,
          frames⟩ := by
  by_cases empty : frame.name = ""
  · obtain ⟨name, attributes, before⟩ := frame
    subst empty
    rfl
  · have named : isPlainName frame.name = true := by simp [isPlainName, empty, plain]
    have noBlanks : ∀ c ∈ ([] : List Char), isMarkupBlank c = true := by simp
    exact feed_closingTag (isTagName_of_isPlainName named) noBlanks place text siblings frames

end Reader

theorem toList_endTags_cons (name : String) (names : List String) :
    (endTags (name :: names)).toList = Reader.closingTag name [] ++ (endTags names).toList := by
  simp [endTags, Reader.closingTag]

/-- End tags close the innermost elements, each of which then stands last in the one around it. -/
theorem feed_endTags {closed : List Frame} (left : List Frame)
    (plain : ∀ frame ∈ closed, frame.name.toList.all isPlain = true) (place : Nat)
    (text : List Char) (siblings : List Content) :
    ∃ place' text' siblings',
      Reader.feed ⟨place, .text, text, siblings, closed ++ left⟩
          (endTags (closed.map (·.name))).toList = .ok ⟨place', .text, text', siblings', left⟩
        ∧ (closed.map (·.name)).reverse ++ lastPathAll (Reader.flush text siblings).reverse
          = lastPathAll (Reader.flush text' siblings').reverse := by
  induction closed generalizing place text siblings with
  | nil => exact ⟨place, text, siblings, rfl, rfl⟩
  | cons frame closed ih =>
    rw [List.forall_mem_cons] at plain
    have first := Reader.feed_closingTag_plain plain.1 place text siblings (closed ++ left)
    obtain ⟨place', text', siblings', others, path⟩ := ih plain.2 _ [] _
    refine ⟨place', text', siblings', ?_, ?_⟩
    · rw [List.map_cons, toList_endTags_cons, List.cons_append, Reader.feed_append_of_ok first]
      exact others
    · rw [← path]
      simp only [Reader.flush, List.isEmpty_nil, if_true, List.reverse_cons, lastPathAll_concat,
        Content.lastPath, List.map_cons, List.append_assoc, List.singleton_append]

end SqlMapper.Markup

namespace SqlMapper.Document

open SqlMapper.Markup

/-! ### Closing and opening -/

theorem parse_eq_error_iff {text : String} {e : MarkupError} :
    parse text = .error e ↔ readMarkup text = .error e :=
  map_eq_error_iff

/-- What is read after a text that ends inside of elements, up to their end tags. -/
theorem feed_append_endTags {text : String} {r : Reader}
    (done : Reader.start.feed (dropByteOrderMark text.toList) = .ok r) (among : r.mode = .text)
    {closed left : List Frame} (frames : r.frames = closed ++ left) (inside : r.frames ≠ [])
    (plain : ∀ frame ∈ closed, frame.name.toList.all isPlain = true) :
    ∃ r', Reader.start.feed (dropByteOrderMark (text ++ endTags (closed.map (·.name))).toList)
        = .ok r' ∧ r'.mode = .text ∧ r'.frames = left
      ∧ (closed.map (·.name)).reverse <+: lastPathAll (Reader.flush r'.text r'.siblings).reverse := by
  have nonempty : text.toList ≠ [] := by
    intro empty
    rw [empty] at done
    cases done
    exact inside rfl
  obtain ⟨place, _, characters, siblings, _⟩ := r
  obtain rfl := among
  obtain rfl := frames
  obtain ⟨place', characters', siblings', closes, path⟩ :=
    feed_endTags left plain place characters siblings
  refine ⟨⟨place', .text, characters', siblings', left⟩, ?_, rfl, rfl, ?_⟩
  · rw [String.toList_append, dropByteOrderMark_append nonempty, Reader.feed_append_of_ok done]
    exact closes
  · rw [← path]
    exact List.prefix_append _ _

/-- A text with all of its open elements closed, and with some of them closed. -/
theorem parse_append_endTags {text name : String}
    (unclosed : parse text = .error (.unclosedTag name))
    (plain : ∀ element ∈ openElements text, element.toList.all isPlain = true) :
    (∃ outer, openElements text = name :: outer)
      ∧ (∀ closed next outer, openElements text = closed ++ next :: outer →
          parse (text ++ endTags closed) = .error (.unclosedTag next))
      ∧ ∃ contents, readMarkup (text ++ endTags (openElements text)) = .ok contents
        ∧ (openElements text).reverse <+: lastPathAll contents := by
  obtain ⟨r, frame, frames, done, among, opened, named⟩ :=
    readMarkup_eq_unclosedTag_iff.mp (parse_eq_error_iff.mp unclosed)
  have inside : r.frames ≠ [] := by simp [opened]
  have names : openElements text = r.frames.map (·.name) := openElements_of_feed done
  rw [names, List.forall_mem_map] at plain
  rw [names]
  refine ⟨⟨frames.map (·.name), by rw [opened, List.map_cons, named]⟩, ?_, ?_⟩
  · intro closed next outer split
    obtain ⟨closedFrames, left, whole, rfl, rest⟩ := List.map_eq_append_iff.mp split
    obtain ⟨nextFrame, outerFrames, rfl, rfl, rfl⟩ := List.map_eq_cons_iff.mp rest
    have plainClosed : ∀ frame ∈ closedFrames, frame.name.toList.all isPlain = true := by
      intro frame member
      apply plain
      rw [whole]
      exact List.mem_append_left _ member
    obtain ⟨r', read, among', left, -⟩ := feed_append_endTags done among whole inside plainClosed
    apply parse_eq_error_iff.mpr
    exact readMarkup_eq_unclosedTag_iff.mpr ⟨r', _, _, read, among', left, rfl⟩
  · have whole : r.frames = r.frames ++ [] := (List.append_nil _).symm
    obtain ⟨r', read, among', closed, path⟩ := feed_append_endTags done among whole inside plain
    exact ⟨_, readMarkup_eq_ok.mpr ⟨r', read, among', closed, rfl⟩, path⟩

/-- A start tag in front of a text that can be read leaves its element open. -/
theorem parse_of_opened {text name : String} {d : SqlMapper.Document} (read : parse text = .ok d)
    (plain : name.toList.all isPlain = true) :
    parse ("<" ++ name ++ ">" ++ text) = .error (.unclosedTag name) := by
  obtain ⟨contents, read, -⟩ := map_eq_ok_iff.mp read
  have opens := Reader.feed_openingTag_plain plain 0 [] [] []
  obtain ⟨r, done, among, frames, -⟩ := Reader.feed_of_readMarkup read
    (r := ⟨placeAfter 0 (Reader.openingTag name []), .text, [], [], [⟨name, [], []⟩]⟩) rfl
  apply parse_eq_error_iff.mpr
  refine readMarkup_eq_unclosedTag_iff.mpr ⟨r, _, _, ?_, among, frames, rfl⟩
  have whole : dropByteOrderMark ("<" ++ name ++ ">" ++ text).toList
      = Reader.openingTag name [] ++ text.toList := by
    simp [Reader.openingTag, dropByteOrderMark]
  rw [whole]
  exact (Reader.feed_append_of_ok opens text.toList).trans done

/-- A text that ends inside of elements with plain names is completed by their
end tags, innermost first, and by no fewer; until then the innermost element
that is left is named, and the elements stand one in the other. A start tag in
front of a text that can be read leaves its element open. At every point of a
text the scanner and the builder have the same elements open, so that no end tag
comes to the builder without an element to close, and together they read what
the reader does. -/
theorem unclosed_tags_innermost_first :
    (∀ text name, parse text = .error (.unclosedTag name) →
      (∀ element ∈ openElements text, element.toList.all isPlain = true) →
        (∃ outer, openElements text = name :: outer)
          ∧ (∀ closed next outer, openElements text = closed ++ next :: outer →
              parse (text ++ endTags closed) = .error (.unclosedTag next))
          ∧ ∃ contents, readMarkup (text ++ endTags (openElements text)) = .ok contents
            ∧ parse (text ++ endTags (openElements text)) = .ok (ofContents contents)
            ∧ (openElements text).reverse <+: lastPathAll contents)
      ∧ (∀ text d name, parse text = .ok d → name.toList.all isPlain = true →
          parse ("<" ++ name ++ ">" ++ text) = .error (.unclosedTag name))
      ∧ (∀ cs position, EventReader.start.feed cs ≠ .error (.strayEndTag position))
      ∧ (∀ cs r, EventReader.start.feed cs = .ok r →
          r.builder.stack.map (·.name) = r.scanner.openNames)
      ∧ ∀ text, readEvents text = (readMarkup text).mapError .markup := by
  refine ⟨?_, ?_, EventReader.feed_ne_strayEndTag, ?_, readEvents_eq⟩
  · intro text name unclosed plain
    obtain ⟨innermost, earlier, contents, read, path⟩ := parse_append_endTags unclosed plain
    refine ⟨innermost, earlier, contents, read, ?_, path⟩
    rw [parse, read]
    rfl
  · intro text d name read plain
    exact parse_of_opened read plain
  · intro cs r done
    exact EventReader.openNames_of_feed done

private def unfinished : String :=
  "\ufeff<m>x<sql ID='a'/><sql id='b'>&lt;<IF test=\"</m>\"><c/><!-- <d> -->y"

/-- Three open elements behind whole ones, with tags in a value and in a comment;
and a start tag in front of the text that their end tags complete. -/
theorem unclosed_tags_innermost_first_nested :
    parse unfinished = .error (.unclosedTag "IF")
      ∧ openElements unfinished = ["IF", "sql", "m"]
      ∧ parse (unfinished ++ "</IF></sql>") = .error (.unclosedTag "m")
      ∧ (∃ d, parse (unfinished ++ "</IF></sql></m>") = .ok d
        ∧ parse ("<g>" ++ (unfinished ++ "</IF></sql></m>")) = .error (.unclosedTag "g")) := by
  have unclosed : parse unfinished = .error (.unclosedTag "IF") := by rfl
  have names : openElements unfinished = ["IF", "sql", "m"] := by rfl
  obtain ⟨closing, opening, -⟩ := unclosed_tags_innermost_first
  obtain ⟨-, earlier, contents, -, read, -⟩ :=
    closing unfinished "IF" unclosed (by rw [names]; decide)
  rw [names] at read
  exact ⟨unclosed, names, earlier ["IF", "sql"] "m" [] names,
    _, read, opening _ _ "g" read (by decide)⟩

end SqlMapper.Document
