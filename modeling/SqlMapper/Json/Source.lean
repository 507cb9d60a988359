/-
Module: SqlMapper.Json.Source
Purpose: JSON texts as they are written: fields in order, duplicates and incomplete strings kept.
Main exports: Source, Source.ofTokens?, Source.read?
-/
import SqlMapper.Json.Token

namespace SqlMapper.Json

/-!
The source tree of a text says what is written, not what it means: a field may
occur twice, a number may be too large and nesting is unbounded. The tree is
built from the tokens with a stack of the arrays and objects that are not yet
closed, so that each token is looked at once.
-/

/-- A JSON text as it is written. -/
inductive Source where
  | null
  | boolean (value : Bool)
  | number (literal : NumberLiteral)
  | string (text : Option String)
  | array (items : List Source)
  | object (fields : List (Option String × Source))
deriving Repr, Inhabited

namespace Source

/-- An array or object that is not yet closed, with what it holds so far, last
first; in an object the value of `key` is awaited. -/
inductive Frame where
  | array (items : List Source)
  | object (fields : List (Option String × Source)) (key : Option String)
deriving Repr, Inhabited

/-- What may come next. -/
inductive Expectation where
  | value (frames : List Frame)
  | firstItem (frames : List Frame)
  | firstKey (frames : List Frame)
  | key (fields : List (Option String × Source)) (frames : List Frame)
  | colon (key : Option String) (fields : List (Option String × Source)) (frames : List Frame)
  | after (value : Source) (frames : List Frame)
deriving Repr, Inhabited

/-- A token where a value is expected. -/
def beginValue? (frames : List Frame) : Token → Option Expectation
  | .null => some (.after .null frames)
  | .boolean value => some (.after (.boolean value) frames)
  | .number literal => some (.after (.number literal) frames)
  | .string text => some (.after (.string text) frames)
  | .openArray => some (.firstItem frames)
  | .openObject => some (.firstKey frames)
  | _ => none

/-- One token. -/
def step : Expectation → Token → Option Expectation
  | .value frames, token => beginValue? frames token
  | .firstItem frames, .closeArray => some (.after (.array []) frames)
  | .firstItem frames, token => beginValue? (.array [] :: frames) token
  | .firstKey frames, .closeObject => some (.after (.object []) frames)
  | .firstKey frames, .string key => some (.colon key [] frames)
  | .key fields frames, .string key => some (.colon key fields frames)
  | .colon key fields frames, .colon => some (.value (.object fields key :: frames))
  | .after value (.array items :: frames), .comma =>
      some (.value (.array (value :: items) :: frames))
  | .after value (.array items :: frames), .closeArray =>
      some (.after (.array (value :: items).reverse) frames)
  | .after value (.object fields key :: frames), .comma =>
      some (.key ((key, value) :: fields) frames)
  | .after value (.object fields key :: frames), .closeObject =>
      some (.after (.object ((key, value) :: fields).reverse) frames)
  | _, _ => none

/-- The tree of a list of tokens. -/
def ofTokens? (tokens : List Token) : Option Source :=
  match tokens.foldlM step (.value []) with
  | some (.after value []) => some value
  | _ => none

/-- Read a text; nothing but blanks may surround the value. -/
def read? (text : String) : Option Source :=
  (Token.scan? text.toList).bind ofTokens?

end Source

end SqlMapper.Json
