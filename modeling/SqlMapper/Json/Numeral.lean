/-
Module: SqlMapper.Json.Numeral
Purpose: The numbers of JSON texts: their grammar, and the integer or double each denotes.
Main exports: NumberLiteral, NumberLiteral.read?, Number, NumberLiteral.value?
-/
import SqlMapper.Number.Numeral

namespace SqlMapper.Json

open SqlMapper.Number

/-!
A number written without a fraction and without an exponent is an integer when
it fits in 64 bits, signed below zero and unsigned above. Every other number
is a double: as many leading digits as fit in 64 bits form a significand, which
is rounded, and multiplying it with or dividing it by the power of ten rounds
once more. A number beyond the largest double is no number at all.
-/

/-- A number as it is written. -/
structure NumberLiteral where
  negative : Bool
  whole : List Char
  fraction : Option (List Char)
  exponent : Option (Bool × List Char)
deriving Repr, Inhabited, DecidableEq

/-- What a number denotes. -/
inductive Number where
  | integer (value : Int)
  | double (value : Double)
deriving Repr, Inhabited, DecidableEq

namespace NumberLiteral

/-- The digits of the whole part: no zero stands before another digit. -/
def isWhole : List Char → Bool
  | [] => false
  | ['0'] => true
  | c :: rest => c != '0' && (c :: rest).all Char.isDigit

/-- The fraction, if a point stands in front, and the rest. -/
def readFraction? : List Char → Option (Option (List Char) × List Char)
  | '.' :: rest =>
      let (digits, rest) := rest.span Char.isDigit
      if digits.isEmpty then none else some (some digits, rest)
  | rest => some (none, rest)

/-- The exponent, which ends the number. -/
def readExponent? : List Char → Option (Option (Bool × List Char))
  | [] => some none
  | c :: rest =>
      if c = 'e' ∨ c = 'E' then
        let (negative, digits) := Numeral.readSign rest
        if isDigits digits then some (some (negative, digits)) else none
      else none

/-- Read a number; nothing may follow it. -/
def read? (cs : List Char) : Option NumberLiteral :=
  let (negative, rest) := match cs with
    | '-' :: rest => (true, rest)
    | rest => (false, rest)
  let (whole, rest) := rest.span Char.isDigit
  if isWhole whole then
    match readFraction? rest with
    | none => none
    | some (fraction, rest) => (readExponent? rest).map (⟨negative, whole, fraction, ·⟩)
  else none

/-- The largest significand. -/
def significandLimit : Nat := Nat.pow 2 64 - 1

/-- Take digits into a significand until the next one does not fit; with it
the digits that were left over. -/
def absorb (significand : Nat) : List Char → Nat × List Char
  | [] => (significand, [])
  | c :: rest =>
      let next := 10 * significand + (c.toNat - '0'.toNat)
      if next ≤ significandLimit then absorb next rest else (significand, c :: rest)

/-- The largest power of ten by which a double is multiplied at once. -/
def powerStep : Nat := 308

/-- The double nearest to a power of ten. -/
def powerOfTen (n : Nat) : Double := .ofNat (Nat.pow 10 n)

/-- A double times a power of ten, unless that is too large. -/
def scale? (x : Double) (exponent : Int) : Option Double :=
  if exponent.natAbs ≤ powerStep then
    if 0 ≤ exponent then
      match x.mul (powerOfTen exponent.toNat) with
      | .infinite _ => none
      | y => some y
    else some (x.div (powerOfTen (-exponent).toNat))
  else if x = .finite false 0 then some x
  else if 0 ≤ exponent then none
  else scale? (x.div (powerOfTen powerStep)) (exponent + powerStep)
termination_by exponent.natAbs
decreasing_by simp only [powerStep] at *; omega

/-- The largest written exponent that is formed; a larger one gives zero or
nothing. -/
def exponentLimit : Nat := Nat.pow 2 31 - 1

/-- The magnitude of a number as a double. -/
def magnitude? (l : NumberLiteral) : Option Double :=
  let (significand, skipped) := absorb 0 l.whole
  let fraction := l.fraction.getD []
  let (significand, ignored) := absorb significand fraction
  let start : Int := skipped.length - (fraction.length - ignored.length : Nat)
  match l.exponent with
  | none => scale? (.ofNat significand) start
  | some (negative, digits) =>
      let exponent := digitsValue digits
      if exponent ≤ exponentLimit then
        scale? (.ofNat significand) (if negative then start - exponent else start + exponent)
      else if significand = 0 ∨ negative then some (.finite false 0)
      else none

/-- The integer a number denotes, if it is one. -/
def integer? (l : NumberLiteral) : Option Int :=
  if l.fraction = none ∧ l.exponent = none then
    let n := digitsValue l.whole
    if l.negative then
      if 0 < n ∧ n ≤ Nat.pow 2 63 then some (-(n : Int)) else none
    else if n ≤ significandLimit then some n
    else none
  else none

/-- What a number denotes, unless it is beyond the largest double. -/
def value? (l : NumberLiteral) : Option Number :=
  match l.integer? with
  | some n => some (.integer n)
  | none => l.magnitude?.map fun x => .double (if l.negative then x.neg else x)

end NumberLiteral

end SqlMapper.Json
