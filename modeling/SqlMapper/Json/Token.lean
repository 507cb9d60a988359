/-
Module: SqlMapper.Json.Token
Purpose: The tokens of JSON texts.
Main exports: Token, Token.scan?
-/
import SqlMapper.Json.Numeral

namespace SqlMapper.Json

open SqlMapper.Number

/-!
The tokens are found in one pass that looks at each character once. Marks and
strings end by themselves; words and numbers, which are all made of the same
kind of characters, end at the first character of another kind. Two of them in
a row without a mark between them are never a JSON text, so nothing is lost by
reading each as long as possible.
-/

/-- A token; a string has no text when an escape in it names half of a
surrogate pair without the other half. -/
inductive Token where
  | openObject
  | closeObject
  | openArray
  | closeArray
  | colon
  | comma
  | null
  | boolean (value : Bool)
  | number (literal : NumberLiteral)
  | string (text : Option String)
deriving Repr, Inhabited, DecidableEq

/-- The part of a string read so far: its characters, last first, the first half
of a surrogate pair that waits for the second, and whether all pairs were
complete. -/
structure StringPart where
  characters : List Char
  high : Option Nat
  complete : Bool
deriving Repr, Inhabited, DecidableEq

namespace StringPart

/-- Nothing read yet. -/
def empty : StringPart := ⟨[], none, true⟩

/-- Add a character. -/
def push (p : StringPart) (c : Char) : StringPart :=
  ⟨c :: p.characters, none, p.complete && p.high.isNone⟩

/-- Add a UTF-16 unit that was written as an escape. -/
def pushUnit (p : StringPart) (unit : Nat) : StringPart :=
  if 0xD800 ≤ unit ∧ unit < 0xDC00 then
    ⟨p.characters, some unit, p.complete && p.high.isNone⟩
  else if 0xDC00 ≤ unit ∧ unit < 0xE000 then
    match p.high with
    | some high =>
        ⟨Char.ofNat (0x10000 + (high - 0xD800) * 0x400 + (unit - 0xDC00)) :: p.characters,
          none, p.complete⟩
    | none => ⟨p.characters, none, false⟩
  else p.push (Char.ofNat unit)

/-- The text of the string, if all pairs are complete. -/
def text? (p : StringPart) : Option String :=
  if p.complete && p.high.isNone then some (String.ofList p.characters.reverse) else none

end StringPart

namespace Token

/-- Where the scan stands. -/
inductive Mode where
  | between
  | word (characters : List Char)
  | string (part : StringPart)
  | escape (part : StringPart)
  | unit (part : StringPart) (digits : Nat) (value : Nat)
deriving Repr, Inhabited, DecidableEq

/-- The scan's place and the tokens found, last first. -/
structure Scan where
  mode : Mode
  found : List Token
deriving Repr, Inhabited, DecidableEq

/-- The blanks between tokens. -/
def isSpace (c : Char) : Bool := c == ' ' || c == '\t' || c == '\n' || c == '\r'

/-- The characters of words and numbers. -/
def isWordCharacter (c : Char) : Bool := c.isAlphanum || c == '-' || c == '+' || c == '.'

/-- The token that a word or number stands for. -/
def ofWord? (characters : List Char) : Option Token :=
  if characters = "null".toList then some .null
  else if characters = "true".toList then some (.boolean true)
  else if characters = "false".toList then some (.boolean false)
  else (NumberLiteral.read? characters).map .number

/-- The character that a one-letter escape stands for. -/
def escaped? : Char → Option Char
  | '"' => some '"'
  | '\\' => some '\\'
  | '/' => some '/'
  | 'b' => some '\x08'
  | 'f' => some '\x0c'
  | 'n' => some '\n'
  | 'r' => some '\r'
  | 't' => some '\t'
  | _ => none

/-- A character outside words and strings. -/
def stepBetween (found : List Token) (c : Char) : Option Scan :=
  if isSpace c then some ⟨.between, found⟩
  else if isWordCharacter c then some ⟨.word [c], found⟩
  else match c with
    | '"' => some ⟨.string .empty, found⟩
    | '\x7b' => some ⟨.between, .openObject :: found⟩
    | '\x7d' => some ⟨.between, .closeObject :: found⟩
    | '[' => some ⟨.between, .openArray :: found⟩
    | ']' => some ⟨.between, .closeArray :: found⟩
    | ':' => some ⟨.between, .colon :: found⟩
    | ',' => some ⟨.between, .comma :: found⟩
    | _ => none

/-- One character of the scan. -/
def step (scan : Scan) (c : Char) : Option Scan :=
  match scan.mode with
  | .between => stepBetween scan.found c
  | .word characters =>
      if isWordCharacter c then some ⟨.word (c :: characters), scan.found⟩
      else (ofWord? characters.reverse).bind fun token => stepBetween (token :: scan.found) c
  | .string part =>
      if c = '"' then some ⟨.between, .string part.text? :: scan.found⟩
      else if c = '\\' then some ⟨.escape part, scan.found⟩
      else if c.toNat < 0x20 then none
      else some ⟨.string (part.push c), scan.found⟩
  | .escape part =>
      if c = 'u' then some ⟨.unit part 0 0, scan.found⟩
      else (escaped? c).map fun e => ⟨.string (part.push e), scan.found⟩
  | .unit part digits value =>
      (digitValue? 16 c).map fun d =>
        let value := 16 * value + d
        if digits = 3 then ⟨.string (part.pushUnit value), scan.found⟩
        else ⟨.unit part (digits + 1) value, scan.found⟩

/-- The tokens of a text. -/
def scan? (cs : List Char) : Option (List Token) :=
  match cs.foldlM step ⟨.between, []⟩ with
  | some ⟨.between, found⟩ => some found.reverse
  | some ⟨.word characters, found⟩ =>
      (ofWord? characters.reverse).map fun token => (token :: found).reverse
  | _ => none

end Token

end SqlMapper.Json
