/-
Module: SqlMapper.Proofs.EventReading
Purpose: Scanner and builder have the same elements open at every point of a text, and read it as
  the reader does.
Main exports: Piece.effect, TreeBuilder.ofFrames, Reader.toEvents, Reader.step_toEvents,
  EventReader.feed_start, openNames_of_feed, readEvents_eq
-/
import SqlMapper.Markup.Event
import SqlMapper.Proofs.Action
import SqlMapper.Proofs.MergedText

namespace SqlMapper.Markup

open SqlMapper.Text

/-!
All that scanner and builder know is known to the reader, which keeps one stack
of open elements for both: the scanner knows their names, and the builder what
they hold. An open element of the reader holds what stands before it, and one of
the builder what stands in it; and the reader holds the current text back where
the builder joins it to the text before. Along these lines the reader is carried
over at every character. Since the two stacks are made from one, the scanner
lets an end tag pass only where the builder has an element to close.
-/

/-! ### What a character completes -/

/-- What the end of a piece means to the reader. -/
def Piece.effect : Piece → Effect
  | .startTag content => startTagEffect content
  | .endTag start content => .endTag start content
  | .reference name => referenceEffect name

/-- Effects that neither start nor end an element; they refuse only what is malformed. -/
inductive Effect.IsLocal : Effect → Prop
  | go (mode : Mode) : IsLocal (.go mode)
  | write (characters : List Char) : IsLocal (.write characters)
  | refuse (position : Nat) (cause : Malformation) : IsLocal (.refuse (.malformed position cause))

/-- What a character means that completes a piece. -/
theorem Mode.effect_of_completed {c : Char} {mode : Mode} {piece : Piece} (place : Nat)
    (h : mode.completed? c = some piece) : mode.effect place c = piece.effect := by
  cases mode with
  | opened start =>
    simp only [completed?, Option.ite_none_right_eq_some] at h
    obtain ⟨rfl, same⟩ := h
    cases same
    rfl
  | startTag start quote content | endTag start quote content | reference start name =>
    simp only [completed?, Option.ite_none_right_eq_some] at h
    obtain ⟨closes, same⟩ := h
    cases same
    exact if_pos closes
  | _ => cases h

/-- Where no tag and no reference ends, no element starts or ends. -/
theorem Mode.isLocal_effect {c : Char} {mode : Mode} (place : Nat)
    (h : mode.completed? c = none) : (mode.effect place c).IsLocal := by
  cases mode with
  | text | declaration start =>
    simp only [effect]
    repeat' split
    all_goals constructor
  | opened start =>
    simp only [completed?, ite_eq_right_iff, reduceCtorEq, imp_false] at h
    simp only [effect, if_neg h]
    repeat' split
    all_goals constructor
  | startTag start quote content | endTag start quote content =>
    simp only [completed?, ite_eq_right_iff, reduceCtorEq, imp_false] at h
    simp only [effect, if_neg h]
    exact .go _
  | reference start name =>
    simp only [completed?, ite_eq_right_iff, reduceCtorEq, imp_false] at h
    simp only [effect, if_neg h]
    split
    · exact .refuse _ _
    · exact .go _
  | comment start content =>
    simp only [effect, commentEffect]
    repeat' split
    all_goals constructor
  | cdata start content =>
    simp only [effect, cdataEffect]
    repeat' split
    all_goals constructor
  | doctype start depth content =>
    simp only [effect, doctypeEffect]
    repeat' split
    all_goals constructor
  | instruction start content =>
    simp only [effect, instructionEffect]
    repeat' split
    all_goals constructor

/-! ### The reader as scanner and builder -/

/-- The builder that holds some trees, last first, in the innermost of some open elements. -/
def TreeBuilder.ofFrames (current : List Content) : List Frame → TreeBuilder
  | [] => ⟨[], current⟩
  | frame :: frames =>
      let outer := ofFrames frame.before frames
      ⟨⟨frame.name, frame.attributes, current⟩ :: outer.stack, outer.roots⟩

/-- The scanner and the builder that know together what the reader knows. -/
def Reader.toEvents (r : Reader) : EventReader :=
  ⟨⟨r.offset, r.mode, r.frames.map (·.name)⟩,
    .ofFrames (Reader.flush r.text r.siblings) r.frames⟩

theorem TreeBuilder.modifySiblings_ofFrames (current : List Content) (frames : List Frame)
    (f : List Content → List Content) :
    (ofFrames current frames).modifySiblings f = ofFrames (f current) frames := by
  cases frames <;> rfl

theorem TreeBuilder.map_name_ofFrames (current : List Content) (frames : List Frame) :
    (ofFrames current frames).stack.map (·.name) = frames.map (·.name) := by
  induction frames generalizing current with
  | nil => rfl
  | cons frame frames ih => exact congrArg (frame.name :: ·) (ih frame.before)

/-- A text that is joined to what stands before it goes on the current text. -/
theorem joinText_flush {siblings : List Content} (apart : headIsText siblings = false)
    (characters text : List Char) :
    joinText characters (Reader.flush text siblings)
      = Reader.flush (characters.reverse ++ text) siblings := by
  cases characters with
  | nil => rfl
  | cons c characters =>
    cases text with
    | nil =>
      have single : joinText (c :: characters) siblings
          = .text (String.ofList (c :: characters)) :: siblings := by
        cases siblings with
        | nil => rfl
        | cons sibling others =>
          cases sibling with
          | text before => cases apart
          | element name attributes children => rfl
      simp [Reader.flush, single]
    | cons d text =>
      have whole : String.ofList (d :: text).reverse ++ String.ofList (c :: characters)
          = String.ofList ((c :: characters).reverse ++ d :: text).reverse := by
        rw [List.reverse_append, List.reverse_reverse, String.ofList_append]
      have nonempty : ((c :: characters).reverse ++ d :: text).isEmpty = false := by simp
      rw [Reader.flush, Reader.flush, nonempty, ← whole]
      rfl

/-- The result of a reader as that of its scanner and its builder. -/
def resultToEvents (result : Except MarkupError Reader) : Except TreeFault EventReader :=
  (result.map Reader.toEvents).mapError .markup

theorem ok_eq_resultToEvents (r : Reader) {builder : TreeBuilder}
    (same : builder = .ofFrames (Reader.flush r.text r.siblings) r.frames) :
    .ok ⟨⟨r.offset, r.mode, r.frames.map (·.name)⟩, builder⟩ = resultToEvents (.ok r) := by
  rw [same]
  rfl

namespace Reader

open EventReader (report)

theorem report_startTag (r : Reader) (next : Nat) (content : List Char) :
    report r.toEvents.builder (.ok (r.toEvents.scanner.finishStartTag next content))
      = resultToEvents (r.finishStartTag next content) := by
  rw [finishStartTag_eq_perform]
  unfold Scanner.finishStartTag
  split
  rename_i isWhole tag cut
  have cut : cutSlash content = (isWhole, tag) := cut
  simp only [startTagEffect, cut]
  generalize tag.takeWhile (! isMarkupBlank ·) = name
  generalize tag.dropWhile (! isMarkupBlank ·) = rest
  cases isWhole with
  | true =>
    simp only [if_true, report, TreeBuilder.handle, openElement]
    cases readAttributes name rest with
    | error fault => rfl
    | ok attributes =>
      let element := Content.element (String.ofList name) attributes []
      exact ok_eq_resultToEvents ⟨next, .text, [], element :: flush r.text r.siblings, r.frames⟩
        (TreeBuilder.modifySiblings_ofFrames _ _ _)
  | false =>
    simp only [Bool.false_eq_true, if_false, report, TreeBuilder.handle, openElement]
    cases readAttributes name rest with
    | error fault => rfl
    | ok attributes => rfl

/-- The scanner and the builder close the same element. -/
theorem report_endTag (r : Reader) (next start : Nat) (content : List Char) :
    report r.toEvents.builder (r.toEvents.scanner.finishEndTag next start content)
      = resultToEvents (r.finishEndTag next start content) := by
  obtain ⟨place, mode, text, siblings, frames⟩ := r
  cases frames with
  | nil => rfl
  | cons frame frames =>
    simp only [toEvents, Scanner.finishEndTag, finishEndTag, List.map_cons]
    by_cases named : String.ofList (endTagName content.reverse) = frame.name
    · simp only [if_pos named]
      let children := (flush text siblings).reverse
      let element := Content.element frame.name frame.attributes children
      exact ok_eq_resultToEvents ⟨next, .text, [], element :: frame.before, frames⟩
        (TreeBuilder.modifySiblings_ofFrames _ _ _)
    · simp only [if_neg named]
      rfl

theorem report_text {r : Reader} (merged : r.Merged) (next : Nat) (characters : List Char) :
    report r.toEvents.builder
        (.ok (⟨next, .text, r.frames.map (·.name)⟩, some (.text characters)))
      = resultToEvents (.ok (r.addText next characters.reverse)) := by
  apply ok_eq_resultToEvents (r.addText next characters.reverse)
  refine (TreeBuilder.modifySiblings_ofFrames _ _ _).trans ?_
  rw [joinText_flush merged.apart]
  rfl

theorem report_reference {r : Reader} (merged : r.Merged) (next : Nat) (name : List Char) :
    report r.toEvents.builder
        (.ok (⟨next, .text, r.frames.map (·.name)⟩, some (.reference name.reverse)))
      = resultToEvents ((referenceEffect name).perform r next) := by
  simp only [report, TreeBuilder.handle, referenceEffect]
  cases textReference? name.reverse with
  | none => rfl
  | some characters => exact report_text merged next characters

/-- A character that completes no tag and no reference is carried over. -/
theorem goOn_toEvents {r : Reader} (merged : r.Merged) {c : Char}
    (completed : r.mode.completed? c = none) :
    report r.toEvents.builder (r.toEvents.scanner.goOn c) = resultToEvents (r.step c) := by
  have bare : r.toEvents.scanner.bare.step c
      = (r.mode.effect r.offset c).perform r.toEvents.scanner.bare (r.offset + c.utf8Size) :=
    step_eq_perform _ c
  have isLocal := Mode.isLocal_effect r.offset completed
  rw [Scanner.goOn, bare, step_eq_perform]
  generalize r.mode.effect r.offset c = effect at isLocal ⊢
  cases isLocal with
  | go mode => rfl
  | refuse position cause => rfl
  | write characters =>
    have added := report_text merged (r.offset + c.utf8Size) characters.reverse
    rw [List.reverse_reverse] at added
    cases characters with
    | nil => rfl
    | cons d others =>
      refine Eq.trans ?_ added
      simp [Effect.perform, addText, Scanner.bare, Scanner.textEvent?, toEvents, Except.map]

/-- A character is carried over to scanner and builder. -/
theorem step_toEvents {r : Reader} (merged : r.Merged) (c : Char) :
    r.toEvents.step c = resultToEvents (r.step c) := by
  have mode : r.toEvents.scanner.mode = r.mode := rfl
  simp only [EventReader.step, Scanner.step, mode]
  cases completed : r.mode.completed? c with
  | none => exact goOn_toEvents merged completed
  | some piece =>
    rw [step_eq_perform, Mode.effect_of_completed r.offset completed]
    cases piece with
    | startTag content =>
      rw [Piece.effect, ← finishStartTag_eq_perform]
      exact report_startTag r _ content
    | endTag start content => exact report_endTag r _ start content
    | reference name => exact report_reference merged _ name

/-- Characters are carried over to scanner and builder. -/
theorem feed_toEvents {r : Reader} (merged : r.Merged) (cs : List Char) :
    r.toEvents.feed cs = resultToEvents (r.feed cs) := by
  induction cs generalizing r with
  | nil => rfl
  | cons c cs ih =>
    rw [EventReader.feed, feed, List.foldlM_cons, List.foldlM_cons, step_toEvents merged c]
    cases done : r.step c with
    | error e => rfl
    | ok later =>
      rw [step_eq_perform] at done
      exact ih (merged.perform done)

end Reader

namespace EventReader

theorem feed_start (cs : List Char) : start.feed cs = resultToEvents (Reader.start.feed cs) :=
  Reader.feed_toEvents Reader.merged_start cs

/-- Wherever a text is, the same elements are open to the scanner and to the builder. -/
theorem openNames_of_feed {cs : List Char} {r : EventReader} (done : start.feed cs = .ok r) :
    r.builder.stack.map (·.name) = r.scanner.openNames := by
  rw [feed_start] at done
  cases read : Reader.start.feed cs with
  | error e =>
    rw [read] at done
    cases done
  | ok reader =>
    rw [read] at done
    cases done
    exact TreeBuilder.map_name_ofFrames _ _

/-- No end tag comes to the builder without an element to close. -/
theorem feed_ne_strayEndTag (cs : List Char) (position : Nat) :
    start.feed cs ≠ .error (.strayEndTag position) := by
  rw [feed_start]
  cases Reader.start.feed cs with
  | error e => nofun
  | ok reader => nofun

end EventReader

/-- Scanner and builder read a text as the reader does. -/
theorem readEvents_eq (text : String) : readEvents text = (readMarkup text).mapError .markup := by
  rw [readEvents, readMarkup, EventReader.feed_start]
  cases Reader.start.feed (dropByteOrderMark text.toList) with
  | error e => rfl
  | ok r =>
    obtain ⟨place, mode, characters, siblings, frames⟩ := r
    cases mode with
    | text => cases frames <;> rfl
    | _ => rfl

end SqlMapper.Markup
