/-
Module: SqlMapper.Markup.Event
Purpose: Reading markup by two parties, one that reports events and one that puts trees together.
Main exports: Event, Scanner, Scanner.step, TreeBuilder, TreeBuilder.handle, EventReader,
  EventReader.step, readEvents
-/
import SqlMapper.Markup.Reader

namespace SqlMapper.Markup

open SqlMapper.Text

/-!
The scanner goes through the characters and reports what it has come to the end
of: text, references and tags. It knows the names of the open elements, because
an end tag has to name the innermost one. The builder is told of each event when
it is reported, and puts the trees together. It looks into tags and references,
and it has open elements of its own: to it an end tag has no name and closes
whatever it opened last. That it may have opened nothing is a fault of its own
kind, which is no error of markup.
-/

/-- What the scanner reports. A tag comes as its name and what follows the name. -/
inductive Event where
  | text (characters : List Char)
  | reference (name : List Char)
  | whole (name rest : List Char)
  | opening (name rest : List Char)
  | closing
deriving Repr, Inhabited, DecidableEq

/-! ### The scanner -/

/-- What a character can complete, with the characters in it last first. -/
inductive Piece where
  | startTag (content : List Char)
  | endTag (start : Nat) (content : List Char)
  | reference (name : List Char)
deriving Repr, Inhabited, DecidableEq

/-- What a character completes in a mode, if it is a tag or a reference. -/
def Mode.completed? (c : Char) : Mode → Option Piece
  | .opened _ => if c = '>' then some (.startTag []) else none
  | .startTag _ quote content => if c = '>' ∧ quote = none then some (.startTag content) else none
  | .endTag start quote content =>
      if c = '>' ∧ quote = none then some (.endTag start content) else none
  | .reference _ name => if c = ';' then some (.reference name) else none
  | .text | .declaration _ | .comment .. | .cdata .. | .doctype .. | .instruction .. => none

/-- The state of the scanner: the byte offset of the next character, where it
stands, and the names of the open elements, innermost first. -/
structure Scanner where
  offset : Nat
  mode : Mode
  openNames : List String
deriving Repr, Inhabited, DecidableEq

namespace Scanner

/-- A reader that stands where the scanner does and has read nothing before. -/
def bare (s : Scanner) : Reader := ⟨s.offset, s.mode, [], [], []⟩

/-- A start tag is complete: its element is open, unless there is a slash at its end. -/
def finishStartTag (s : Scanner) (next : Nat) (content : List Char) : Scanner × Option Event :=
  let (isWhole, content) := match content with
    | '/' :: content => (true, content.reverse)
    | content => (false, content.reverse)
  let name := content.takeWhile (! isMarkupBlank ·)
  let rest := content.dropWhile (! isMarkupBlank ·)
  if isWhole then (⟨next, .text, s.openNames⟩, some (.whole name rest))
  else (⟨next, .text, String.ofList name :: s.openNames⟩, some (.opening name rest))

/-- An end tag is complete: it has to name the innermost open element. -/
def finishEndTag (s : Scanner) (next start : Nat) (content : List Char) :
    Except MarkupError (Scanner × Option Event) :=
  let found := String.ofList (Reader.endTagName content.reverse)
  match s.openNames with
  | [] => .error (.malformed start (.unmatchedEndTag found))
  | name :: outer =>
      if found = name then .ok (⟨next, .text, outer⟩, some .closing)
      else .error (.malformed start (.mismatchedEndTag name found))

/-- The text that a reader has come to, to be reported if there is any. -/
def textEvent? (r : Reader) : Option Event :=
  if r.text.isEmpty then none else some (.text r.text.reverse)

/-- A character that completes no tag and no reference. It is looked at as by a
reader that has read nothing before. -/
def goOn (s : Scanner) (c : Char) : Except MarkupError (Scanner × Option Event) :=
  (s.bare.step c).map fun r => (⟨r.offset, r.mode, s.openNames⟩, textEvent? r)

/-- One character, with the event that it completes. -/
def step (s : Scanner) (c : Char) : Except MarkupError (Scanner × Option Event) :=
  let next := s.offset + c.utf8Size
  match s.mode.completed? c with
  | some (.startTag content) => .ok (s.finishStartTag next content)
  | some (.endTag start content) => s.finishEndTag next start content
  | some (.reference name) => .ok (⟨next, .text, s.openNames⟩, some (.reference name.reverse))
  | none => s.goOn c

/-- The end of the input: every tag and reference has to be closed. Elements may be open. -/
def finish (s : Scanner) : Except MarkupError Unit := s.bare.finish.map fun _ => ()

end Scanner

/-! ### The builder -/

/-- An open element with what it holds so far, last first. -/
structure OpenElement where
  name : String
  attributes : List (String × String)
  children : List Content
deriving Repr, Inhabited

/-- The state of the builder: the open elements, innermost first, and the trees
that stand in no element, last first. -/
structure TreeBuilder where
  stack : List OpenElement
  roots : List Content
deriving Repr, Inhabited

/-- What can be wrong for the builder: an error of markup, or an end tag before
some place where no element is open. -/
inductive TreeFault where
  | markup (error : MarkupError)
  | strayEndTag (position : Nat)
deriving Repr, Inhabited, DecidableEq

/-- The element that a start tag opens. -/
def openElement (name rest : List Char) : Except MarkupError OpenElement :=
  match readAttributes name rest with
  | .ok attributes => .ok ⟨String.ofList name, attributes, []⟩
  | .error fault => .error (.malformed 0 fault)

/-- Siblings with more text behind them, last first: it goes on the text before
it, if there is one. -/
def joinText (characters : List Char) (siblings : List Content) : List Content :=
  if characters.isEmpty then siblings
  else match siblings with
    | .text before :: others => .text (before ++ String.ofList characters) :: others
    | others => .text (String.ofList characters) :: others

namespace TreeBuilder

/-- Change what the innermost open element holds, or the trees that stand in none. -/
def modifySiblings (b : TreeBuilder) (f : List Content → List Content) : TreeBuilder :=
  match b.stack with
  | [] => ⟨[], f b.roots⟩
  | top :: outer => ⟨⟨top.name, top.attributes, f top.children⟩ :: outer, b.roots⟩

/-- Put a tree behind the others. -/
def append (b : TreeBuilder) (tree : Content) : TreeBuilder := b.modifySiblings (tree :: ·)

/-- Put a text behind the others. -/
def appendText (b : TreeBuilder) (characters : List Char) : TreeBuilder :=
  b.modifySiblings (joinText characters)

/-- An event, which was reported before a place. -/
def handle (b : TreeBuilder) (position : Nat) : Event → Except TreeFault TreeBuilder
  | .text characters => .ok (b.appendText characters)
  | .reference name =>
      match textReference? name with
      | some characters => .ok (b.appendText characters)
      | none => .error (.markup (.malformed 0 (.characterReference (String.ofList name))))
  | .whole name rest =>
      match openElement name rest with
      | .ok element => .ok (b.append (.element element.name element.attributes []))
      | .error e => .error (.markup e)
  | .opening name rest =>
      match openElement name rest with
      | .ok element => .ok ⟨element :: b.stack, b.roots⟩
      | .error e => .error (.markup e)
  | .closing =>
      match b.stack with
      | [] => .error (.strayEndTag position)
      | top :: outer =>
          .ok (append ⟨outer, b.roots⟩ (.element top.name top.attributes top.children.reverse))

/-- The end of the input: every element has to be closed. -/
def finish (b : TreeBuilder) : Except MarkupError (List Content) :=
  match b.stack with
  | [] => .ok b.roots.reverse
  | top :: _ => .error (.unclosedTag top.name)

end TreeBuilder

/-! ### Both together -/

/-- A scanner and the builder that it reports to. -/
structure EventReader where
  scanner : Scanner
  builder : TreeBuilder
deriving Repr, Inhabited

namespace EventReader

/-- Before the first character. -/
def start : EventReader := ⟨⟨0, .text, []⟩, ⟨[], []⟩⟩

/-- What the builder makes of what the scanner reports. -/
def report (builder : TreeBuilder) :
    Except MarkupError (Scanner × Option Event) → Except TreeFault EventReader
  | .error e => .error (.markup e)
  | .ok (scanner, none) => .ok ⟨scanner, builder⟩
  | .ok (scanner, some event) =>
      (builder.handle scanner.offset event).map fun builder => ⟨scanner, builder⟩

/-- One character. -/
def step (r : EventReader) (c : Char) : Except TreeFault EventReader :=
  report r.builder (r.scanner.step c)

/-- Read on through characters. -/
def feed (r : EventReader) (cs : List Char) : Except TreeFault EventReader := cs.foldlM step r

/-- The end of the input. -/
def finish (r : EventReader) : Except TreeFault (List Content) :=
  match r.scanner.finish with
  | .error e => .error (.markup e)
  | .ok () => r.builder.finish.mapError .markup

end EventReader

/-- Read a text by its events. -/
def readEvents (text : String) : Except TreeFault (List Content) :=
  match EventReader.start.feed (dropByteOrderMark text.toList) with
  | .ok r => r.finish
  | .error fault => .error fault

end SqlMapper.Markup
