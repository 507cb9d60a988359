/-
Module: SqlMapper.Proofs.Effect
Purpose: What a character means to the reader, wherever in a text it stands.
Main exports: Effect, Mode.effect, Effect.perform, Reader.step_eq_perform,
  Mode.unplaced, Effect.Alike, Mode.alike_effect, readMarkup_eq_ok
-/
import SqlMapper.Markup.Reader

namespace SqlMapper.Markup

open SqlMapper.Text

/-!
What a character means is settled by the mode in which the reader is: it goes on
in a mode, adds to the text, completes a tag, or cannot stand there. The trees
that were read so far and the elements that are open come in only when this is
performed. Places are kept for the messages of errors alone, so what a character
means is the same at every place of a text.
-/

/-- What a character means to the reader; characters of text are held last first. -/
inductive Effect where
  | go (mode : Mode)
  | write (characters : List Char)
  | whole (name : String) (attributes : List (String × String))
  | opening (name : String) (attributes : List (String × String))
  | endTag (start : Nat) (content : List Char)
  | refuse (error : MarkupError)
deriving Repr, Inhabited, DecidableEq

/-- What the end of a reference in text means. -/
def referenceEffect (name : List Char) : Effect :=
  match textReference? name.reverse with
  | some characters => .write characters.reverse
  | none => .refuse (.malformed 0 (.characterReference (String.ofList name.reverse)))

/-- A start tag without a slash at its end, and whether there is one. -/
def cutSlash : List Char → Bool × List Char
  | '/' :: content => (true, content.reverse)
  | content => (false, content.reverse)

/-- What the end of a start tag means: it is a whole element or opens one. -/
def startTagEffect (content : List Char) : Effect :=
  let (isWhole, content) := cutSlash content
  let name := content.takeWhile (! isMarkupBlank ·)
  let rest := content.dropWhile (! isMarkupBlank ·)
  match readAttributes name rest with
  | .error fault => .refuse (.malformed 0 fault)
  | .ok attributes =>
      let name := String.ofList name
      if isWhole then .whole name attributes else .opening name attributes

/-- What a closing bracket means in a comment: the dashes before it cannot be
those that the comment starts with. -/
def commentEffect (start : Nat) (content : List Char) : Effect :=
  match content with
  | '-' :: '-' :: _ :: _ :: _ :: _ =>
      if Reader.startsWith content.reverse "!--".toList then .go .text
      else .refuse (.malformed start .openComment)
  | _ => .go (.comment start ('>' :: content))

/-- What a closing bracket means in a section. -/
def cdataEffect (start : Nat) (content : List Char) : Effect :=
  match content with
  | ']' :: ']' :: _ =>
      let opening := "![CDATA[".toList
      if Reader.startsWith content.reverse opening then
        .write ((content.drop 2).reverse.drop opening.length).reverse
      else .refuse (.malformed start .openCdata)
  | _ => .go (.cdata start ('>' :: content))

/-- What a closing bracket means in a processing instruction. -/
def instructionEffect (start : Nat) (content : List Char) : Effect :=
  match content with
  | ['?'] => .refuse (.malformed start .openInstruction)
  | '?' :: _ => .go .text
  | _ => .go (.instruction start ('>' :: content))

/-- What the end of a document type means at a place. -/
def doctypeEffect (place start : Nat) (content : List Char) : Effect :=
  let opening := "!doctype".toList
  let content := content.reverse
  if Reader.startsWith (content.map Char.toLower) opening then
    if (content.drop opening.length).all isMarkupBlank then
      .refuse (.malformed place .namelessDoctype)
    else .go .text
  else .refuse (.malformed start .openDoctype)

/-- What a character means at a place in a mode. -/
def Mode.effect (place : Nat) (c : Char) : Mode → Effect
  | .text =>
      if c = '<' then .go (.opened place)
      else if c = '&' then .go (.reference place [])
      else .write [c]
  | .reference start name =>
      if c = ';' then referenceEffect name
      else if c = '&' ∨ c = '<' then .refuse (.malformed start .openReference)
      else .go (.reference start (c :: name))
  | .opened start =>
      if c = '!' then .go (.declaration start)
      else if c = '?' then .go (.instruction start [c])
      else if c = '/' then .go (.endTag start none [])
      else if c = '>' then startTagEffect []
      else .go (.startTag start (Reader.nextQuote none c) [c])
  | .startTag start quote content =>
      if c = '>' ∧ quote = none then startTagEffect content
      else .go (.startTag start (Reader.nextQuote quote c) (c :: content))
  | .endTag start quote content =>
      if c = '>' ∧ quote = none then .endTag start content
      else .go (.endTag start (Reader.nextQuote quote c) (c :: content))
  | .declaration start =>
      if c = '-' then .go (.comment start [c, '!'])
      else if c = '[' then .go (.cdata start [c, '!'])
      else if c = 'd' ∨ c = 'D' then .go (.doctype start 0 [c, '!'])
      else .refuse (.malformed start .unknownMarkup)
  | .comment start content =>
      if c = '>' then commentEffect start content else .go (.comment start (c :: content))
  | .cdata start content =>
      if c = '>' then cdataEffect start content else .go (.cdata start (c :: content))
  | .doctype start depth content =>
      if c = '<' then .go (.doctype start (depth + 1) (c :: content))
      else if c = '>' then
        if depth = 0 then doctypeEffect place start content
        else .go (.doctype start (depth - 1) (c :: content))
      else .go (.doctype start depth (c :: content))
  | .instruction start content =>
      if c = '>' then instructionEffect start content
      else .go (.instruction start (c :: content))

/-- The reader after an effect, with the place of the next character. -/
def Effect.perform (r : Reader) (next : Nat) : Effect → Except MarkupError Reader
  | .go mode => .ok (r.advance next mode)
  | .write characters => .ok (r.addText next characters)
  | .whole name attributes =>
      .ok ⟨next, .text, [], .element name attributes [] :: Reader.flush r.text r.siblings, r.frames⟩
  | .opening name attributes =>
      .ok ⟨next, .text, [], [], ⟨name, attributes, Reader.flush r.text r.siblings⟩ :: r.frames⟩
  | .endTag start content => r.finishEndTag next start content
  | .refuse error => .error error

theorem Reader.finishStartTag_eq_perform (r : Reader) (next : Nat) (content : List Char) :
    r.finishStartTag next content = (startTagEffect content).perform r next := by
  unfold finishStartTag
  split
  rename_i isWhole tag cut
  have cut : cutSlash content = (isWhole, tag) := cut
  simp only [startTagEffect, cut]
  cases readAttributes (tag.takeWhile (! isMarkupBlank ·)) (tag.dropWhile (! isMarkupBlank ·)) with
  | error fault => rfl
  | ok attributes => cases isWhole <;> rfl

/-- The reader performs what a character means. -/
theorem Reader.step_eq_perform (r : Reader) (c : Char) :
    r.step c = (r.mode.effect r.offset c).perform r (r.offset + c.utf8Size) := by
  cases mode : r.mode with
  | text =>
    simp only [step, mode, Mode.effect]
    split
    · rfl
    · split <;> rfl
  | reference start name =>
    simp only [step, mode, Mode.effect, finishReference, referenceEffect]
    split
    · cases textReference? name.reverse <;> rfl
    · split <;> rfl
  | opened start =>
    simp only [step, mode, Mode.effect, stepOpened, finishStartTag_eq_perform]
    repeat' split
    all_goals rfl
  | startTag start quote content =>
    simp only [step, mode, Mode.effect, finishStartTag_eq_perform]
    split <;> rfl
  | endTag start quote content =>
    simp only [step, mode, Mode.effect]
    split <;> rfl
  | declaration start =>
    simp only [step, mode, Mode.effect, stepDeclaration]
    repeat' split
    all_goals rfl
  | comment start content =>
    simp only [step, mode, Mode.effect]
    split
    · rename_i closing
      subst closing
      split
      · simp only [finishComment, commentEffect]
        split <;> rfl
      · rename_i others
        unfold commentEffect
        split
        · exact absurd rfl (others _ _ _ _)
        · rfl
    · rfl
  | cdata start content =>
    simp only [step, mode, Mode.effect]
    split
    · rename_i closing
      subst closing
      split
      · simp only [finishCdata, cdataEffect]
        split <;> rfl
      · rename_i others
        unfold cdataEffect
        split
        · exact absurd rfl (others _)
        · rfl
    · rfl
  | doctype start depth content =>
    simp only [step, mode, Mode.effect, finishDoctype, doctypeEffect]
    repeat' split
    all_goals rfl
  | instruction start content =>
    simp only [step, mode, Mode.effect]
    split
    · rename_i closing
      subst closing
      split
      · rfl
      · rename_i more
        unfold instructionEffect
        split
        · rename_i only
          cases only
          exact absurd rfl more
        · rfl
        · rename_i others
          exact absurd rfl (others _)
      · rename_i notOne notMore
        unfold instructionEffect
        split
        · exact absurd rfl notOne
        · exact absurd rfl (notMore _)
        · rfl
    · rfl

/-! ### Places -/

/-- A mode as if everything had started at the first place. -/
def Mode.unplaced : Mode → Mode
  | .text => .text
  | .reference _ name => .reference 0 name
  | .opened _ => .opened 0
  | .startTag _ quote content => .startTag 0 quote content
  | .endTag _ quote content => .endTag 0 quote content
  | .declaration _ => .declaration 0
  | .comment _ content => .comment 0 content
  | .cdata _ content => .cdata 0 content
  | .doctype _ depth content => .doctype 0 depth content
  | .instruction _ content => .instruction 0 content

/-- An error as if it were found at the first place. -/
def MarkupError.unplaced : MarkupError → MarkupError
  | .malformed _ cause => .malformed 0 cause
  | .unclosedTag tag => .unclosedTag tag
  | .missingAttribute tag name => .missingAttribute tag name
  | .invalidChoose fault => .invalidChoose fault

/-- An effect as if everything had started at the first place. -/
def Effect.unplaced : Effect → Effect
  | .go mode => .go mode.unplaced
  | .write characters => .write characters
  | .whole name attributes => .whole name attributes
  | .opening name attributes => .opening name attributes
  | .endTag _ content => .endTag 0 content
  | .refuse error => .refuse error.unplaced

/-- Effects that differ in places only. -/
inductive Effect.Alike : Effect → Effect → Prop
  | go {mode mode' : Mode} (same : mode'.unplaced = mode.unplaced) : Alike (.go mode) (.go mode')
  | write (characters : List Char) : Alike (.write characters) (.write characters)
  | whole (name : String) (attributes : List (String × String)) :
      Alike (.whole name attributes) (.whole name attributes)
  | opening (name : String) (attributes : List (String × String)) :
      Alike (.opening name attributes) (.opening name attributes)
  | endTag (start start' : Nat) (content : List Char) :
      Alike (.endTag start content) (.endTag start' content)
  | refuse (error error' : MarkupError) : Alike (.refuse error) (.refuse error')

theorem Effect.alike_of_unplaced {effect effect' : Effect}
    (same : effect'.unplaced = effect.unplaced) : Alike effect effect' := by
  cases effect with
  | go mode =>
    cases effect' with
    | go mode' => exact .go (Effect.go.inj same)
    | _ => cases same
  | write characters =>
    cases effect' with
    | write others =>
      cases same
      exact .write characters
    | _ => cases same
  | whole name attributes =>
    cases effect' with
    | whole other others =>
      cases same
      exact .whole name attributes
    | _ => cases same
  | opening name attributes =>
    cases effect' with
    | opening other others =>
      cases same
      exact .opening name attributes
    | _ => cases same
  | endTag start content =>
    cases effect' with
    | endTag start' other =>
      cases same
      exact .endTag start start' content
    | _ => cases same
  | refuse error =>
    cases effect' with
    | refuse error' => exact .refuse error error'
    | _ => cases same

theorem Mode.unplaced_effect (place : Nat) (c : Char) (mode : Mode) :
    (mode.effect place c).unplaced = (mode.unplaced.effect 0 c).unplaced := by
  cases mode with
  | text | opened start | startTag start quote content | endTag start quote content
  | declaration start =>
    simp only [effect, unplaced]
    repeat' split
    all_goals rfl
  | reference start name =>
    simp only [effect, unplaced, referenceEffect]
    repeat' split
    all_goals rfl
  | comment start content =>
    simp only [effect, unplaced, commentEffect]
    repeat' split
    all_goals rfl
  | cdata start content =>
    simp only [effect, unplaced, cdataEffect]
    repeat' split
    all_goals rfl
  | instruction start content =>
    simp only [effect, unplaced, instructionEffect]
    repeat' split
    all_goals rfl
  | doctype start depth content =>
    simp only [effect, unplaced, doctypeEffect]
    repeat' split
    all_goals rfl

/-- In modes that differ in places only, a character means the same up to places. -/
theorem Mode.alike_effect {mode mode' : Mode} (same : mode'.unplaced = mode.unplaced)
    (place place' : Nat) (c : Char) : (mode.effect place c).Alike (mode'.effect place' c) := by
  apply Effect.alike_of_unplaced
  rw [unplaced_effect place', same, ← unplaced_effect]

theorem Mode.eq_text_of_unplaced {mode : Mode} (h : mode.unplaced = Mode.text.unplaced) :
    mode = .text := by
  cases mode with
  | text => rfl
  | _ => cases h

/-! ### Whole texts -/

/-- Where a text can be read, nothing is open at its end. -/
theorem readMarkup_eq_ok {text : String} {contents : List Content} :
    readMarkup text = .ok contents ↔
      ∃ r, Reader.start.feed (dropByteOrderMark text.toList) = .ok r ∧ r.mode = .text
        ∧ r.frames = [] ∧ contents = (Reader.flush r.text r.siblings).reverse := by
  unfold readMarkup
  cases Reader.start.feed (dropByteOrderMark text.toList) with
  | error e => simp
  | ok r =>
    obtain ⟨place, mode, text, siblings, frames⟩ := r
    cases mode with
    | text => cases frames <;> simp [Reader.finish, eq_comm]
    | _ => simp [Reader.finish]

end SqlMapper.Markup
