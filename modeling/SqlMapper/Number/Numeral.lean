/-
Module: SqlMapper.Number.Numeral
Purpose: Reading decimal numerals into binary numbers.
Main exports: digitValue?, digitsValue, Numeral, Numeral.read?, Numeral.value, readBinary?
-/
import SqlMapper.Number.Binary

namespace SqlMapper.Number

/-!
A decimal numeral is digits with an optional point among them, at least one
digit in all, and an optional power of ten. It is read exactly and rounded
once. An exponent may have any number of digits, so a numeral far outside every
format is recognised by its size before the power of ten is formed.
-/

/-- The value of a digit in a base up to sixteen. -/
def digitValue? (base : Nat) (c : Char) : Option Nat :=
  let value? :=
    if c.isDigit then some (c.toNat - '0'.toNat)
    else if 'a' ≤ c ∧ c ≤ 'f' then some (c.toNat - 'a'.toNat + 10)
    else if 'A' ≤ c ∧ c ≤ 'F' then some (c.toNat - 'A'.toNat + 10)
    else none
  value?.filter (· < base)

/-- The number that a run of decimal digits denotes. -/
def digitsValue (digits : List Char) : Nat :=
  digits.foldl (fun n c => 10 * n + (c.toNat - '0'.toNat)) 0

/-- A nonempty run of decimal digits and nothing else. -/
def isDigits (cs : List Char) : Bool := !cs.isEmpty && cs.all Char.isDigit

/-- A decimal numeral without its sign: `mantissa * 10 ^ scale`, the mantissa
being written with so many digits. -/
structure Numeral where
  mantissa : Nat
  places : Nat
  scale : Int
deriving Repr, Inhabited, DecidableEq

namespace Numeral

/-- A sign, if one stands in front, and the rest. -/
def readSign : List Char → Bool × List Char
  | '-' :: rest => (true, rest)
  | '+' :: rest => (false, rest)
  | rest => (false, rest)

/-- The power of ten at the end of a numeral; no characters stand for the
zeroth power. -/
def readExponent? : List Char → Option Int
  | [] => some 0
  | c :: rest =>
      if c = 'e' ∨ c = 'E' then
        let (negative, digits) := readSign rest
        if isDigits digits then
          some (if negative then -(digitsValue digits : Int) else digitsValue digits)
        else none
      else none

/-- The digits after the point, if there is a point, and what follows. -/
def readFraction : List Char → List Char × List Char
  | '.' :: rest => rest.span Char.isDigit
  | rest => ([], rest)

/-- Read a numeral without a sign. -/
def read? (cs : List Char) : Option Numeral :=
  let (whole, rest) := cs.span Char.isDigit
  let (fraction, rest) := readFraction rest
  let digits := whole ++ fraction
  if digits.isEmpty then none
  else (readExponent? rest).map fun exponent =>
    ⟨digitsValue digits, digits.length, exponent - fraction.length⟩

/-- The powers of ten between which the finite numbers of every format lie. -/
def horizon : Int := 400

/-- The binary number nearest to a numeral. -/
def value {f : Format} (negative : Bool) (n : Numeral) : Binary f :=
  if n.mantissa = 0 then .finite negative 0
  else if horizon < n.scale then .infinite negative
  else if n.scale + n.places < -horizon then .finite negative 0
  else if 0 ≤ n.scale then .ofRatio negative (n.mantissa * Nat.pow 10 n.scale.toNat) 1
  else .ofRatio negative n.mantissa (Nat.pow 10 (-n.scale).toNat)

end Numeral

/-- Read a number: a numeral with an optional sign, or in any case of letters
`inf`, `infinity` or `nan`. -/
def readBinary? (f : Format) (cs : List Char) : Option (Binary f) :=
  let (negative, rest) := Numeral.readSign cs
  let letters := rest.map Char.toLower
  if letters = "nan".toList then some .nan
  else if letters = "inf".toList ∨ letters = "infinity".toList then some (.infinite negative)
  else (Numeral.read? rest).map (Numeral.value negative)

end SqlMapper.Number
