/-
Module: SqlMapper.Number.Shortest
Purpose: The fewest decimal digits that read back as a binary number, and their written forms.
Main exports: Decimal, shortest, Style, Style.plain, Style.json, Binary.text
-/
import SqlMapper.Number.Binary

namespace SqlMapper.Number

/-!
Every real number between the midpoints to the two neighbours of a binary
number rounds to it, the midpoints included when its significand is even. For
one digit, two digits and so on, the two points of the decimal grid around the
number are tried: the first grid with a point in that interval gives the
digits, of two such points the nearer. How the digits are then written is a
matter of a `Style`.
-/

/-- Decimal digits and the power of ten of the first of them. -/
structure Decimal where
  digits : List Char
  exponent : Int
deriving Repr, Inhabited, DecidableEq

/-- How digits are written: which powers of ten of the first digit are written
without an exponent, whether a whole number shows a fraction, and where a tie
between two shortest decimals goes. -/
structure Style where
  positional : Option (Int × Int)
  fractionOfWhole : Bool
  tieUp : Bool
deriving Repr, Inhabited, DecidableEq

namespace Style

/-- All digits are written out, and a whole number has no fraction. -/
def plain : Style := ⟨none, false, true⟩

/-- The style of JSON texts: from `0.00001` to sixteen places before the point
without an exponent, and with at least one digit after the point. -/
def json : Style := ⟨some (-5, 15), true, false⟩

/-- Whether a decimal with this exponent is written without it. -/
def isPositional (style : Style) (exponent : Int) : Bool :=
  match style.positional with
  | none => true
  | some (least, greatest) => least ≤ exponent && exponent ≤ greatest

end Style

/-- The decimal digits of a natural number. -/
def decimalDigits (n : Nat) : List Char := Nat.toDigits 10 n

/-- The power of ten of the first digit of a positive number of units. -/
def leadingExponent (f : Format) (units : Nat) : Int :=
  let unit := Nat.pow 2 f.fraction
  if unit ≤ units then (decimalDigits (units / unit)).length - 1
  else -((decimalDigits ((unit + units - 1) / units - 1)).length : Int)

/-- The interval of the reals that round to a number, in quarters of a unit,
and whether its ends belong to it. -/
def roundingInterval (f : Format) (units : Nat) : Nat × Nat × Bool :=
  let above := f.spacing units
  let below := if 1 < above ∧ units = Nat.pow 2 units.log2 then above / 2 else above
  (4 * units - 2 * below, 4 * units + 2 * above, units / above % 2 = 0)

/-- The point with `places` digits that rounds to a number, if there is one;
with it the power of ten of its last digit. -/
def gridPoint? (f : Format) (tieUp : Bool) (units places : Nat) : Option (Nat × Int) :=
  let last := leadingExponent f units + 1 - places
  let numerator := units * Nat.pow 10 (-last).toNat
  let denominator := Nat.pow 2 f.fraction * Nat.pow 10 last.toNat
  let (low, high, closed) := roundingInterval f units
  let inside (point : Nat) : Bool :=
    let quarters := 4 * point * denominator
    let least := low * Nat.pow 10 (-last).toNat
    let greatest := high * Nat.pow 10 (-last).toNat
    if closed then least ≤ quarters && quarters ≤ greatest
    else least < quarters && quarters < greatest
  let floor := numerator / denominator
  let twice := 2 * (numerator % denominator)
  match inside floor, inside (floor + 1) with
  | false, false => none
  | true, false => some (floor, last)
  | false, true => some (floor + 1, last)
  | true, true =>
      let up := denominator < twice ||
        (twice == denominator && (tieUp || floor % 2 == 1))
      some (if up then floor + 1 else floor, last)

/-- The digits of a point of a grid, without zeros at the end. -/
def Decimal.ofPoint (point : Nat) (last : Int) : Decimal :=
  let digits := decimalDigits point
  ⟨(digits.reverse.dropWhile (· == '0')).reverse, last + digits.length - 1⟩

/-- The fewest digits that read back as a positive number of units. Seventeen
are enough for both formats. -/
def shortest (f : Format) (tieUp : Bool) (units : Nat) : Decimal :=
  match (List.range 17).findSome? fun n => gridPoint? f tieUp units (n + 1) with
  | some (point, last) => .ofPoint point last
  | none => .ofPoint units 0

/-- So many zeros. -/
def zeros (n : Nat) : List Char := List.replicate n '0'

/-- The digits written out without an exponent. -/
def Decimal.positional (d : Decimal) (fractionOfWhole : Bool) : List Char :=
  if d.exponent < 0 then
    "0.".toList ++ zeros (-d.exponent - 1).toNat ++ d.digits
  else
    let before := d.exponent.toNat + 1
    if d.digits.length ≤ before then
      d.digits ++ zeros (before - d.digits.length) ++
        (if fractionOfWhole then ".0".toList else [])
    else d.digits.take before ++ '.' :: d.digits.drop before

/-- One digit, the others after a point, and the exponent with its sign. -/
def Decimal.scientific (d : Decimal) : List Char :=
  let rest := d.digits.drop 1
  d.digits.take 1 ++ (if rest.isEmpty then [] else '.' :: rest) ++
    'e' :: (if d.exponent < 0 then '-' else '+') :: decimalDigits d.exponent.natAbs

/-- A magnitude in units, written in a style. -/
def magnitudeText (f : Format) (style : Style) (units : Nat) : List Char :=
  if units = 0 then '0' :: (if style.fractionOfWhole then ".0".toList else [])
  else
    let d := shortest f style.tieUp units
    if style.isPositional d.exponent then d.positional style.fractionOfWhole
    else d.scientific

/-- A number written in a style. -/
def Binary.text {f : Format} (style : Style) : Binary f → String
  | .nan => "NaN"
  | .infinite negative => if negative then "-inf" else "inf"
  | .finite negative units =>
      String.ofList ((if negative then ['-'] else []) ++ magnitudeText f style units)

end SqlMapper.Number
