/-
Module: SqlMapper.Markup.Reader
Purpose: Reading markup into trees of elements and text.
Main exports: Reader, Reader.step, Reader.finish, readMarkup
-/
import SqlMapper.Markup.Attribute
import SqlMapper.Markup.Content

namespace SqlMapper.Markup

open SqlMapper.Text

/-!
The reader looks at each character once. What it knows is a value of `Reader`:
where it stands among text, tags, comments and so on, the elements that are
open, and the text that is not yet part of a tree. So reading a text and then
another is reading the two as one. Any number of elements may stand side by
side, and text may stand anywhere.

Comments, processing instructions and document types leave no trace, and
sections and references are text; text that only these interrupt is one text.
A comment, a section or a document type is first read to its end and only then
looked at from its start, so one that starts wrongly counts as not closed.
-/

/-- Where the reader stands. Characters are held last first; a tag counts from
the byte offset of its opening bracket, a reference from its ampersand. -/
inductive Mode where
  | text
  | reference (start : Nat) (name : List Char)
  | opened (start : Nat)
  | startTag (start : Nat) (quote : Option Char) (content : List Char)
  | endTag (start : Nat) (quote : Option Char) (content : List Char)
  | declaration (start : Nat)
  | comment (start : Nat) (content : List Char)
  | cdata (start : Nat) (content : List Char)
  | doctype (start depth : Nat) (content : List Char)
  | instruction (start : Nat) (content : List Char)
deriving Repr, Inhabited, DecidableEq

/-- An open element, with what stands before it in its parent, last first. -/
structure Frame where
  name : String
  attributes : List (String × String)
  before : List Content
deriving Repr, Inhabited

/-- The state of the reader: the byte offset of the next character, where it
stands, the characters of the current text, what the innermost open element
holds so far, both last first, and the open elements, innermost first. -/
structure Reader where
  offset : Nat
  mode : Mode
  text : List Char
  siblings : List Content
  frames : List Frame
deriving Repr, Inhabited

namespace Reader

/-- Before the first character. -/
def start : Reader := ⟨0, .text, [], [], []⟩

/-- The siblings with the current text, if there is any. -/
def flush (text : List Char) (siblings : List Content) : List Content :=
  if text.isEmpty then siblings else .text (String.ofList text.reverse) :: siblings

/-- The reader one character further on, in a mode. -/
def advance (r : Reader) (next : Nat) (mode : Mode) : Reader :=
  ⟨next, mode, r.text, r.siblings, r.frames⟩

/-- The reader back among text, with more characters of it, last first. -/
def addText (r : Reader) (next : Nat) (characters : List Char) : Reader :=
  ⟨next, .text, characters ++ r.text, r.siblings, r.frames⟩

/-- The quote in which a tag stands after a character. -/
def nextQuote (quote : Option Char) (c : Char) : Option Char :=
  match quote with
  | some q => if c = q then none else some q
  | none => if c = '"' ∨ c = '\'' then some c else none

/-- Whether a text starts with another. -/
def startsWith (cs start : List Char) : Bool := start.isPrefixOf cs

/-- A start tag is complete; with a slash at its end it is a whole element. -/
def finishStartTag (r : Reader) (next : Nat) (content : List Char) :
    Except MarkupError Reader :=
  let (isWhole, content) := match content with
    | '/' :: content => (true, content.reverse)
    | content => (false, content.reverse)
  let name := content.takeWhile (! isMarkupBlank ·)
  let rest := content.dropWhile (! isMarkupBlank ·)
  match readAttributes name rest with
  | .error fault => .error (.malformed 0 fault)
  | .ok attributes =>
      let name := String.ofList name
      let siblings := flush r.text r.siblings
      if isWhole then .ok ⟨next, .text, [], .element name attributes [] :: siblings, r.frames⟩
      else .ok ⟨next, .text, [], [], ⟨name, attributes, siblings⟩ :: r.frames⟩

/-- The name in an end tag: blanks may follow it. -/
def endTagName (content : List Char) : List Char :=
  let name := (content.reverse.dropWhile isMarkupBlank).reverse
  if name.isEmpty then content else name

/-- An end tag is complete: it closes the innermost open element. -/
def finishEndTag (r : Reader) (next start : Nat) (content : List Char) :
    Except MarkupError Reader :=
  let found := String.ofList (endTagName content.reverse)
  match r.frames with
  | [] => .error (.malformed start (.unmatchedEndTag found))
  | frame :: frames =>
      if found = frame.name then
        let children := (flush r.text r.siblings).reverse
        .ok ⟨next, .text, [], .element frame.name frame.attributes children :: frame.before,
          frames⟩
      else .error (.malformed start (.mismatchedEndTag frame.name found))

/-- A reference in text is complete. -/
def finishReference (r : Reader) (next : Nat) (name : List Char) : Except MarkupError Reader :=
  match textReference? name.reverse with
  | some characters => .ok (r.addText next characters.reverse)
  | none => .error (.malformed 0 (.characterReference (String.ofList name.reverse)))

/-- A comment has come to its end. -/
def finishComment (r : Reader) (next start : Nat) (content : List Char) :
    Except MarkupError Reader :=
  if startsWith content.reverse "!--".toList then .ok (r.advance next .text)
  else .error (.malformed start .openComment)

/-- A section has come to its end: what it holds is text. -/
def finishCdata (r : Reader) (next start : Nat) (content : List Char) :
    Except MarkupError Reader :=
  let opening := "![CDATA[".toList
  if startsWith content.reverse opening then
    let body := (content.drop 2).reverse.drop opening.length
    .ok (r.addText next body.reverse)
  else .error (.malformed start .openCdata)

/-- A document type has come to its end: it has a name. -/
def finishDoctype (r : Reader) (next start : Nat) (content : List Char) :
    Except MarkupError Reader :=
  let opening := "!doctype".toList
  let content := content.reverse
  if startsWith (content.map Char.toLower) opening then
    if (content.drop opening.length).all isMarkupBlank then
      .error (.malformed r.offset .namelessDoctype)
    else .ok (r.advance next .text)
  else .error (.malformed start .openDoctype)

/-- The character after an opening bracket says what is opened. -/
def stepOpened (r : Reader) (next start : Nat) (c : Char) : Except MarkupError Reader :=
  if c = '!' then .ok (r.advance next (.declaration start))
  else if c = '?' then .ok (r.advance next (.instruction start [c]))
  else if c = '/' then .ok (r.advance next (.endTag start none []))
  else if c = '>' then r.finishStartTag next []
  else .ok (r.advance next (.startTag start (nextQuote none c) [c]))

/-- The character after `<!` says what is declared. -/
def stepDeclaration (r : Reader) (next start : Nat) (c : Char) : Except MarkupError Reader :=
  if c = '-' then .ok (r.advance next (.comment start [c, '!']))
  else if c = '[' then .ok (r.advance next (.cdata start [c, '!']))
  else if c = 'd' ∨ c = 'D' then .ok (r.advance next (.doctype start 0 [c, '!']))
  else .error (.malformed start .unknownMarkup)

/-- One character. -/
def step (r : Reader) (c : Char) : Except MarkupError Reader :=
  let next := r.offset + c.utf8Size
  match r.mode with
  | .text =>
      if c = '<' then .ok (r.advance next (.opened r.offset))
      else if c = '&' then .ok (r.advance next (.reference r.offset []))
      else .ok (r.addText next [c])
  | .reference start name =>
      if c = ';' then r.finishReference next name
      else if c = '&' ∨ c = '<' then .error (.malformed start .openReference)
      else .ok (r.advance next (.reference start (c :: name)))
  | .opened start => r.stepOpened next start c
  | .startTag start quote content =>
      if c = '>' ∧ quote = none then r.finishStartTag next content
      else .ok (r.advance next (.startTag start (nextQuote quote c) (c :: content)))
  | .endTag start quote content =>
      if c = '>' ∧ quote = none then r.finishEndTag next start content
      else .ok (r.advance next (.endTag start (nextQuote quote c) (c :: content)))
  | .declaration start => r.stepDeclaration next start c
  | .comment start content =>
      if c = '>' then
        match content with
        | '-' :: '-' :: _ :: _ :: _ :: _ => r.finishComment next start content
        | _ => .ok (r.advance next (.comment start (c :: content)))
      else .ok (r.advance next (.comment start (c :: content)))
  | .cdata start content =>
      if c = '>' then
        match content with
        | ']' :: ']' :: _ => r.finishCdata next start content
        | _ => .ok (r.advance next (.cdata start (c :: content)))
      else .ok (r.advance next (.cdata start (c :: content)))
  | .doctype start depth content =>
      if c = '<' then .ok (r.advance next (.doctype start (depth + 1) (c :: content)))
      else if c = '>' then
        if depth = 0 then r.finishDoctype next start content
        else .ok (r.advance next (.doctype start (depth - 1) (c :: content)))
      else .ok (r.advance next (.doctype start depth (c :: content)))
  | .instruction start content =>
      if c = '>' then
        match content with
        | ['?'] => .error (.malformed start .openInstruction)
        | '?' :: _ => .ok (r.advance next .text)
        | _ => .ok (r.advance next (.instruction start (c :: content)))
      else .ok (r.advance next (.instruction start (c :: content)))

/-- Read on through characters. -/
def feed (r : Reader) (cs : List Char) : Except MarkupError Reader := cs.foldlM step r

/-- The end of the input: every tag, reference and element has to be closed. -/
def finish (r : Reader) : Except MarkupError (List Content) :=
  match r.mode with
  | .text =>
      match r.frames with
      | [] => .ok (flush r.text r.siblings).reverse
      | frame :: _ => .error (.unclosedTag frame.name)
  | .reference start _ => .error (.malformed start .openReference)
  | .opened start | .startTag start .. | .endTag start .. => .error (.malformed start .openTag)
  | .declaration start => .error (.malformed start .unknownMarkup)
  | .comment start _ => .error (.malformed start .openComment)
  | .cdata start _ => .error (.malformed start .openCdata)
  | .doctype start .. => .error (.malformed start .openDoctype)
  | .instruction start _ => .error (.malformed start .openInstruction)

end Reader

/-- A text without the byte order mark at its start. -/
def dropByteOrderMark : List Char → List Char
  | '\ufeff' :: rest => rest
  | cs => cs

/-- Read a text as markup. -/
def readMarkup (text : String) : Except MarkupError (List Content) :=
  match Reader.start.feed (dropByteOrderMark text.toList) with
  | .ok r => r.finish
  | .error e => .error e

end SqlMapper.Markup
