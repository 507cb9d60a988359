/-
Module: SqlMapper.Markup.Error
Purpose: Everything that can be wrong with markup, and the message for each.
Main exports: NumberFault, ReferenceFault, AttributeFault, Malformation, ChooseFault, MarkupError
-/

namespace SqlMapper.Markup

/-- Why a numeric character reference in an attribute value denotes no character. -/
inductive NumberFault where
  | sign
  | empty
  | digit
  | tooLarge
  | zero
  | notACharacter (code : Nat)
deriving Repr, Inhabited, DecidableEq

/-- The message for a numeric character reference without a character. -/
def NumberFault.message : NumberFault → String
  | .sign => "unexpected number sign"
  | .empty => "cannot parse integer from empty string"
  | .digit => "invalid digit found in string"
  | .tooLarge => "number too large to fit in target type"
  | .zero => "0x0 character is not permitted in XML"
  | .notACharacter code => s!"`{code}` is not a valid codepoint"

/-- Why a reference in an attribute value cannot be resolved; places are byte
offsets in the value. -/
inductive ReferenceFault where
  | unknown (start stop : Nat) (name : String)
  | unterminated (start stop : Nat)
  | number (fault : NumberFault)
deriving Repr, Inhabited, DecidableEq

/-- The message for a reference that cannot be resolved. -/
def ReferenceFault.message : ReferenceFault → String
  | .unknown start stop name => s!"at {start}..{stop}: unrecognized entity `{name}`"
  | .unterminated start stop =>
      s!"Error while escaping character at range {start}..{stop}: Cannot find ';' after '&'"
  | .number fault =>
      let reason := fault.message
      s!"invalid character reference: {reason}"

/-- What is wrong with the attributes of a tag; places are byte offsets in the
tag after its opening bracket. -/
inductive AttributeFault where
  | missingEquals (position : Nat)
  | missingValue (position : Nat)
  | unquotedValue (position : Nat)
  | unclosedValue (position : Nat) (quote : Char)
  | duplicate (position previous : Nat)
deriving Repr, Inhabited, DecidableEq

/-- The message for wrong attributes. -/
def AttributeFault.message : AttributeFault → String
  | .missingEquals position =>
      s!"position {position}: attribute key must be directly followed by `=` or space"
  | .missingValue position => s!"position {position}: `=` must be followed by an attribute value"
  | .unquotedValue position =>
      s!"position {position}: attribute value must be enclosed in `\"` or `'`"
  | .unclosedValue position quote =>
      s!"position {position}: missing closing quote `{quote}` in attribute value"
  | .duplicate position previous =>
      s!"position {position}: duplicated attribute, previous declaration at position {previous}"

/-- Why a text is not markup. -/
inductive Malformation where
  | unknownMarkup
  | openInstruction
  | openComment
  | openDoctype
  | openCdata
  | openTag
  | openReference
  | namelessDoctype
  | unmatchedEndTag (name : String)
  | mismatchedEndTag (expected found : String)
  | characterReference (reference : String)
  | attribute (tag : String) (fault : AttributeFault)
  | attributeValue (key tag : String) (fault : ReferenceFault)
deriving Repr, Inhabited, DecidableEq

/-- The message for a text that is not markup. -/
def Malformation.message : Malformation → String
  | .unknownMarkup => "syntax error: unknown or missed symbol in markup"
  | .openInstruction =>
      "syntax error: processing instruction or xml declaration not closed: `?>` not found before end of input"
  | .openComment => "syntax error: comment not closed: `-->` not found before end of input"
  | .openDoctype => "syntax error: DOCTYPE not closed: `>` not found before end of input"
  | .openCdata => "syntax error: CDATA not closed: `]]>` not found before end of input"
  | .openTag => "syntax error: tag not closed: `>` not found before end of input"
  | .openReference =>
      "ill-formed document: entity or character reference not closed: `;` not found before end of input"
  | .namelessDoctype =>
      "ill-formed document: `<!DOCTYPE>` declaration does not contain a name of a document type"
  | .unmatchedEndTag name =>
      s!"ill-formed document: close tag `</{name}>` does not match any open tag"
  | .mismatchedEndTag expected found =>
      s!"ill-formed document: expected `</{expected}>`, but `</{found}>` was found"
  | .characterReference reference => s!"invalid character reference &{reference};"
  | .attribute tag fault =>
      let reason := fault.message
      s!"invalid attribute on <{tag}>: {reason}"
  | .attributeValue key tag fault =>
      let reason := fault.message
      s!"invalid value for attribute '{key}' on <{tag}>: {reason}"

/-- Why a `choose` element is not a choice. -/
inductive ChooseFault where
  | strayText (text : String)
  | unexpected (tag : String)
  | secondOtherwise
  | noWhen
  | noOtherwise
deriving Repr, Inhabited, DecidableEq

/-- The message for a `choose` element that is not a choice. -/
def ChooseFault.message : ChooseFault → String
  | .strayText text => s!"text '{text}' outside of <when>/<otherwise>"
  | .unexpected tag => s!"unexpected <{tag}>"
  | .secondOtherwise => "more than one <otherwise>"
  | .noWhen => "at least one <when> is required"
  | .noOtherwise => "exactly one <otherwise> is required"

/-- What can be wrong with a mapper text: it is not markup, it ends inside an
element, or a directive in it is not built as it has to be. -/
inductive MarkupError where
  | malformed (position : Nat) (cause : Malformation)
  | unclosedTag (tag : String)
  | missingAttribute (tag name : String)
  | invalidChoose (fault : ChooseFault)
deriving Repr, Inhabited, DecidableEq

/-- The message for wrong markup. -/
def MarkupError.message : MarkupError → String
  | .malformed position cause =>
      let reason := cause.message
      s!"Markup syntax error at byte {position}: {reason}"
  | .unclosedTag tag => s!"Tag <{tag}> is never closed"
  | .missingAttribute tag name =>
      s!"Tag <{tag}> is missing the required attribute '{name}'"
  | .invalidChoose fault =>
      let reason := fault.message
      s!"Invalid <choose> block: {reason}"

end SqlMapper.Markup
