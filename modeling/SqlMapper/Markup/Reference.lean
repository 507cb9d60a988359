/-
Module: SqlMapper.Markup.Reference
Purpose: Entity and character references, in text and in attribute values.
Main exports: predefined?, textReference?, valueReference, unescapeValue
-/
import SqlMapper.Markup.Error
import SqlMapper.Number.Numeral

namespace SqlMapper.Markup

open SqlMapper.Number

/-!
The five predefined entities are known everywhere. In text a reference to any
other entity is kept as it is written, and a character reference may have a plus
sign, an `x` of either case, and the code zero. In an attribute value all of
these are faults, and each fault is told apart.
-/

/-- The character of a predefined entity. -/
def predefined? (name : List Char) : Option Char :=
  if name = "lt".toList then some '<'
  else if name = "gt".toList then some '>'
  else if name = "amp".toList then some '&'
  else if name = "apos".toList then some '\''
  else if name = "quot".toList then some '"'
  else none

/-- Read digits into a number of at most 32 bits, going on from a value. -/
def readCode (base : Nat) (value : Nat) : List Char → Except NumberFault Nat
  | [] => .ok value
  | c :: rest =>
      match digitValue? base c with
      | none => .error .digit
      | some d =>
          let next := base * value + d
          if next < Nat.pow 2 32 then readCode base next rest else .error .tooLarge

/-- The character with a code, unless there is none. -/
def characterOfCode? (code : Nat) : Option Char :=
  if code.isValidChar then some (Char.ofNat code) else none

/-- The base and the digits of a numeric reference that may mark the base with
one of some letters. -/
def splitBase (marks : List Char) : List Char → Nat × List Char
  | c :: rest => if c ∈ marks then (16, rest) else (10, c :: rest)
  | [] => (10, [])

/-! ### References in text -/

/-- The character of a numeric reference in text, written without its mark `#`. -/
def textCharacter? (number : List Char) : Option Char :=
  let (base, digits) := splitBase ['x', 'X'] number
  let digits := match digits with
    | '+' :: rest => rest
    | digits => digits
  if digits.isEmpty then none
  else match readCode base 0 digits with
    | .ok code => characterOfCode? code
    | .error _ => none

/-- The characters that a reference in text stands for; none if it is numeric
and denotes no character. -/
def textReference? (reference : List Char) : Option (List Char) :=
  match predefined? reference with
  | some c => some [c]
  | none =>
      match reference with
      | '#' :: number => (textCharacter? number).map ([·])
      | _ => some ('&' :: (reference ++ [';']))

/-! ### References in attribute values -/

/-- The character of a numeric reference in an attribute value. -/
def valueCharacter (number : List Char) : Except NumberFault Char :=
  let (base, digits) := splitBase ['x'] number
  match digits with
  | [] => .error .empty
  | '+' :: _ | '-' :: _ => .error .sign
  | digits =>
      match readCode base 0 digits with
      | .error fault => .error fault
      | .ok code =>
          if code = 0 then .error .zero
          else match characterOfCode? code with
            | some c => .ok c
            | none => .error (.notACharacter code)

/-- The character of the reference at a place of an attribute value. -/
def valueReference (start stop : Nat) (reference : List Char) : Except ReferenceFault Char :=
  match reference with
  | '#' :: number =>
      match valueCharacter number with
      | .ok c => .ok c
      | .error fault => .error (.number fault)
  | _ =>
      match predefined? reference with
      | some c => .ok c
      | none => .error (.unknown start stop (String.ofList reference))

/-- A scan of an attribute value: the place of the next character, the
characters so far, and the place and name of a reference that is not yet ended,
both last first. -/
structure ValueScan where
  position : Nat
  done : List Char
  reference : Option (Nat × List Char)
deriving Repr, Inhabited, DecidableEq

namespace ValueScan

/-- Before the first character. -/
def start : ValueScan := ⟨0, [], none⟩

/-- One character; `length` is the length of the value in bytes. -/
def step (length : Nat) (scan : ValueScan) (c : Char) : Except ReferenceFault ValueScan :=
  let next := scan.position + c.utf8Size
  match scan.reference with
  | none =>
      if c = '&' then .ok ⟨next, scan.done, some (scan.position, [])⟩
      else .ok ⟨next, c :: scan.done, none⟩
  | some (start, name) =>
      if c = ';' then
        match valueReference (start + 1) scan.position name.reverse with
        | .ok resolved => .ok ⟨next, resolved :: scan.done, none⟩
        | .error fault => .error fault
      else if c = '&' then .error (.unterminated start length)
      else .ok ⟨next, scan.done, some (start, c :: name)⟩

end ValueScan

/-- The length of a text in bytes. -/
def byteLength (cs : List Char) : Nat := cs.foldl (fun n c => n + c.utf8Size) 0

/-- An attribute value with its references resolved. -/
def unescapeValue (cs : List Char) : Except ReferenceFault (List Char) :=
  let length := byteLength cs
  match cs.foldlM (ValueScan.step length) ValueScan.start with
  | .error fault => .error fault
  | .ok ⟨_, done, none⟩ => .ok done.reverse
  | .ok ⟨_, _, some (start, _)⟩ => .error (.unterminated start length)

end SqlMapper.Markup
