/-
Module: SqlMapper.Json.Value
Purpose: JSON values, what a written text denotes, and their compact and indented texts.
Main exports: Value, Source.value?, Value.read?, Value.pairwise_names_of_read?, Value.field?,
  Value.compact, Value.pretty
-/
import SqlMapper.Dictionary
import SqlMapper.Json.Source
import SqlMapper.Number.Shortest

namespace SqlMapper.Json

open SqlMapper.Number

/-!
A value forgets how it was written: the fields of an object that was read stand
in ascending order of their names, the last of several fields of one name being
kept, and a number is an integer or a double. Texts with a value are nested at
most 127 deep, name only complete characters and hold no number beyond the
largest double.
-/

/-- A JSON value. The fields of an object are printed in the order in which
they stand. -/
inductive Value where
  | null
  | boolean (value : Bool)
  | integer (value : Int)
  | double (value : Double)
  | string (text : String)
  | array (items : List Value)
  | object (fields : List (String × Value))
deriving Repr, Inhabited

/-- The value of a number. -/
def Number.toValue : Number → Value
  | .integer n => .integer n
  | .double x => .double x

/-- How deep arrays and objects may be nested. -/
def nestingLimit : Nat := 127

/-- The fields in ascending order of their names, the last of a name kept. -/
def sortFields (fields : List (String × Value)) : List (String × Value) :=
  (Dictionary.ofList fields).entries

mutual

/-- The value that a written text denotes, with so many levels of nesting left. -/
def Source.value? (levels : Nat) : Source → Option Value
  | .null => some .null
  | .boolean value => some (.boolean value)
  | .number literal => literal.value?.map Number.toValue
  | .string text => text.map .string
  | .array items =>
      if levels = 0 then none else (Source.values? (levels - 1) items).map .array
  | .object fields =>
      if levels = 0 then none
      else (Source.fields? (levels - 1) fields).map fun fields => .object (sortFields fields)

/-- The values of the items of an array. -/
def Source.values? (levels : Nat) : List Source → Option (List Value)
  | [] => some []
  | item :: rest =>
      match Source.value? levels item, Source.values? levels rest with
      | some value, some values => some (value :: values)
      | _, _ => none

/-- The values of the fields of an object, in the order in which they are written. -/
def Source.fields? (levels : Nat) : List (Option String × Source) → Option (List (String × Value))
  | [] => some []
  | (key, item) :: rest =>
      match key, Source.value? levels item, Source.fields? levels rest with
      | some name, some value, some fields => some ((name, value) :: fields)
      | _, _, _ => none

end

namespace Value

/-- Read the value of a text. -/
def read? (text : String) : Option Value :=
  (Source.read? text).bind (Source.value? nestingLimit)

/-- The names in an object that was read stand in ascending order, each once. -/
theorem pairwise_names_of_read? {text : String} {fields : List (String × Value)}
    (read : read? text = some (.object fields)) : (fields.map (·.1)).Pairwise (· < ·) := by
  obtain ⟨source, -, denoted⟩ := Option.bind_eq_some_iff.mp read
  cases source with
  | object written =>
    simp only [Source.value?] at denoted
    split at denoted
    · cases denoted
    · obtain ⟨fields, -, sorted⟩ := Option.map_eq_some_iff.mp denoted
      cases sorted
      exact Dictionary.pairwise_names _
  | number literal =>
    obtain ⟨number, -, other⟩ := Option.map_eq_some_iff.mp denoted
    cases number <;> cases other
  | string text =>
    obtain ⟨characters, -, other⟩ := Option.map_eq_some_iff.mp denoted
    cases other
  | array items =>
    simp only [Source.value?] at denoted
    split at denoted
    · cases denoted
    · obtain ⟨values, -, other⟩ := Option.map_eq_some_iff.mp denoted
      cases other
  | null => cases denoted
  | boolean value => cases denoted

/-- The value of a field of an object. -/
def field? (value : Value) (name : String) : Option Value :=
  match value with
  | .object fields => fields.lookup name
  | _ => none

/-! ### Texts -/

/-- A hexadecimal digit in lower case. -/
def hexCharacter (n : Nat) : Char := "0123456789abcdef".toList.getD n '0'

/-- A character as it stands in a string: quotes, backslashes and the
characters below U+0020 are escaped. -/
def escapeCharacter (c : Char) : List Char :=
  match c with
  | '"' => ['\\', '"']
  | '\\' => ['\\', '\\']
  | '\x08' => ['\\', 'b']
  | '\t' => ['\\', 't']
  | '\n' => ['\\', 'n']
  | '\x0c' => ['\\', 'f']
  | '\r' => ['\\', 'r']
  | c =>
      if c.toNat < 0x20 then
        ['\\', 'u', '0', '0', hexCharacter (c.toNat / 16), hexCharacter (c.toNat % 16)]
      else [c]

/-- A string with its quotes. -/
def quote (text : String) : List Char :=
  '"' :: (text.toList.flatMap escapeCharacter ++ ['"'])

/-- The text of an integer. -/
def integerText (n : Int) : List Char :=
  if n < 0 then '-' :: decimalDigits n.natAbs else decimalDigits n.natAbs

mutual

/-- The text of a value without blanks. -/
def compact : Value → List Char
  | .null => "null".toList
  | .boolean value => if value then "true".toList else "false".toList
  | .integer n => integerText n
  | .double x => (x.text Style.json).toList
  | .string text => quote text
  | .array items => '[' :: (compactItems items ++ [']'])
  | .object fields => '\x7b' :: (compactFields fields ++ ['\x7d'])

/-- The items of an array, with commas between them. -/
def compactItems : List Value → List Char
  | [] => []
  | [item] => compact item
  | item :: next :: rest => compact item ++ ',' :: compactItems (next :: rest)

/-- The fields of an object, with commas between them. -/
def compactFields : List (String × Value) → List Char
  | [] => []
  | [(name, value)] => quote name ++ ':' :: compact value
  | (name, value) :: next :: rest =>
      quote name ++ ':' :: (compact value ++ ',' :: compactFields (next :: rest))

end

/-- A new line, indented two spaces for each level. -/
def newLine (level : Nat) : List Char := '\n' :: List.replicate (2 * level) ' '

mutual

/-- The text of a value on lines of its own, at a level of indentation. -/
def indented (level : Nat) : Value → List Char
  | .array items =>
      if items.isEmpty then "[]".toList
      else '[' :: (indentedItems (level + 1) items ++ newLine level ++ [']'])
  | .object fields =>
      if fields.isEmpty then ['\x7b', '\x7d']
      else '\x7b' :: (indentedFields (level + 1) fields ++ newLine level ++ ['\x7d'])
  | value => compact value

/-- The items of an array, each on a line of its own. -/
def indentedItems (level : Nat) : List Value → List Char
  | [] => []
  | [item] => newLine level ++ indented level item
  | item :: next :: rest =>
      newLine level ++ indented level item ++ ',' :: indentedItems level (next :: rest)

/-- The fields of an object, each on a line of its own. -/
def indentedFields (level : Nat) : List (String × Value) → List Char
  | [] => []
  | [(name, value)] => newLine level ++ quote name ++ ": ".toList ++ indented level value
  | (name, value) :: next :: rest =>
      newLine level ++ quote name ++ ": ".toList ++ indented level value
        ++ ',' :: indentedFields level (next :: rest)

end

/-- The text of a value, indented by two spaces. -/
def pretty (value : Value) : String := String.ofList (indented 0 value)

end Value

end SqlMapper.Json
