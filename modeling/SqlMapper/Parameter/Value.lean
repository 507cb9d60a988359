/-
Module: SqlMapper.Parameter.Value
Purpose: The values a parameter may have, the text each shows to templates, and what templates
  ask of parameters.
Main exports: Value, Value.text?, jsonText?, Bag, Bag.none
-/
import SqlMapper.Json.Value

namespace SqlMapper.Parameter

open SqlMapper.Number

/-- A value given to a parameter. -/
inductive Value where
  | null
  | integer (value : Int)
  | boolean (value : Bool)
  | character (value : Char)
  | string (text : String)
  | single (value : Single)
  | double (value : Double)
  | json (value : Json.Value)
deriving Repr, Inhabited

/-- The text of a JSON value: none for null, a string itself, and the compact
text of anything else. -/
def jsonText? : Json.Value → Option String
  | .null => none
  | .string text => some text
  | value => some (String.ofList value.compact)

/-- The text of a value; null has none. -/
def Value.text? : Value → Option String
  | .null => none
  | .integer n => some (String.ofList (Json.Value.integerText n))
  | .boolean value => some (if value then "true" else "false")
  | .character c => some (String.singleton c)
  | .string text => some text
  | .single x => some (x.text Style.plain)
  | .double x => some (x.text Style.plain)
  | .json value => jsonText? value

/-- A parameter bag answers one question: the text of the value with a name.
A value that is null reads like a missing one. -/
abbrev Bag := String → Option String

/-- The bag without values. -/
def Bag.none : Bag := fun _ => Option.none

end SqlMapper.Parameter
