/-
Module: SqlMapper.Markup.Attribute
Purpose: The attributes of a tag.
Main exports: readAttributes
-/
import SqlMapper.Markup.Reference
import SqlMapper.Text.Blank

namespace SqlMapper.Markup

open SqlMapper.Text

/-!
An attribute is a key, an equals sign and a value in quotes of either kind.
Blanks may stand around the equals sign and need not stand between attributes.
A key may hold anything but blanks and equals signs after its first character.
Faults are found from left to right, a value being resolved as soon as it is
complete.
-/

/-- Where the reading of attributes stands; keys and values are held last
character first. -/
inductive AttributeMode where
  | between
  | key (start : Nat) (name : List Char)
  | afterKey (start : Nat) (name : List Char)
  | beforeValue (start : Nat) (name : String)
  | value (start : Nat) (name : String) (quote : Char) (characters : List Char)
deriving Repr, Inhabited, DecidableEq

/-- The place of the next character, where the reading stands, and the
attributes read with the places of their keys, last first. -/
structure AttributeScan where
  position : Nat
  mode : AttributeMode
  found : List (Nat × String × String)
deriving Repr, Inhabited, DecidableEq

namespace AttributeScan

/-- A key is complete: it must be new. -/
def endKey (tag : String) (scan : AttributeScan) (next start : Nat) (name : List Char) :
    Except Malformation AttributeScan :=
  let name := String.ofList name.reverse
  match scan.found.find? (·.2.1 == name) with
  | some previous => .error (.attribute tag (.duplicate start previous.1))
  | none => .ok ⟨next, .beforeValue start name, scan.found⟩

/-- One character. -/
def step (tag : String) (scan : AttributeScan) (c : Char) : Except Malformation AttributeScan :=
  let next := scan.position + c.utf8Size
  match scan.mode with
  | .between =>
      if isMarkupBlank c then .ok ⟨next, .between, scan.found⟩
      else .ok ⟨next, .key scan.position [c], scan.found⟩
  | .key start name =>
      if c = '=' then scan.endKey tag next start name
      else if isMarkupBlank c then .ok ⟨next, .afterKey start name, scan.found⟩
      else .ok ⟨next, .key start (c :: name), scan.found⟩
  | .afterKey start name =>
      if c = '=' then scan.endKey tag next start name
      else if isMarkupBlank c then .ok ⟨next, .afterKey start name, scan.found⟩
      else .error (.attribute tag (.missingEquals scan.position))
  | .beforeValue start name =>
      if c = '"' ∨ c = '\'' then .ok ⟨next, .value start name c [], scan.found⟩
      else if isMarkupBlank c then .ok ⟨next, .beforeValue start name, scan.found⟩
      else .error (.attribute tag (.unquotedValue scan.position))
  | .value start name quote characters =>
      if c = quote then
        match unescapeValue characters.reverse with
        | .ok value =>
            .ok ⟨next, .between, (start, name, String.ofList value) :: scan.found⟩
        | .error fault => .error (.attributeValue name tag fault)
      else .ok ⟨next, .value start name quote (c :: characters), scan.found⟩

/-- The end of the tag. -/
def finish (tag : String) (scan : AttributeScan) : Except Malformation (List (String × String)) :=
  match scan.mode with
  | .between => .ok (scan.found.reverse.map (·.2))
  | .key .. | .afterKey .. => .error (.attribute tag (.missingEquals scan.position))
  | .beforeValue .. => .error (.attribute tag (.missingValue scan.position))
  | .value _ _ quote _ => .error (.attribute tag (.unclosedValue scan.position quote))

end AttributeScan

/-- Read the attributes of a tag from what follows its name. -/
def readAttributes (name : List Char) (rest : List Char) :
    Except Malformation (List (String × String)) :=
  let tag := String.ofList name
  match rest.foldlM (AttributeScan.step tag) ⟨byteLength name, .between, []⟩ with
  | .ok scan => scan.finish tag
  | .error fault => .error fault

end SqlMapper.Markup
