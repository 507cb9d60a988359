/-
Module: SqlMapper.Number.Binary
Purpose: Binary floating-point numbers as exact integers, correctly rounded.
Main exports: Format, Format.double, Format.single, Binary, Binary.ofRatio, Binary.ofNat,
  Binary.compare?, Binary.mul, Binary.div
-/

namespace SqlMapper.Number

/-!
A finite number of a binary format is a whole number of units, the unit being
the least positive number of the format. Sums of digits, products and
quotients are formed exactly and rounded once, to the nearest number of the
format; of two equally near ones the one with the even significand is taken.
All of it is arithmetic on natural numbers, so nothing here depends on the
machine's floating point.
-/

/-- A binary format: the number of significant bits, the exponent `fraction`
of the unit `2 ^ -fraction`, and the exponent `range` of the power of two below
which all finite magnitudes lie. -/
structure Format where
  precision : Nat
  fraction : Nat
  range : Nat
deriving Repr, Inhabited, DecidableEq

namespace Format

/-- The format with 64 bits. -/
def double : Format := ⟨53, 1074, 1024⟩

/-- The format with 32 bits. -/
def single : Format := ⟨24, 149, 128⟩

/-- The distance, in units, between the numbers of the format around a
magnitude with this whole part. -/
def spacing (f : Format) (units : Nat) : Nat := Nat.pow 2 (units.log2 + 1 - f.precision)

/-- The first magnitude, in units, that is too large for a finite number. -/
def limit (f : Format) : Nat := Nat.pow 2 (f.fraction + f.range)

end Format

/-- A quotient rounded to the nearest whole number, a half to the even one. -/
def roundQuotient (numerator denominator : Nat) : Nat :=
  let whole := numerator / denominator
  let twice := 2 * (numerator % denominator)
  if twice < denominator then whole
  else if denominator < twice then whole + 1
  else if whole % 2 = 0 then whole else whole + 1

/-- The units of the number of a format nearest to a quotient, with no bound
on the magnitude. -/
def Format.nearestUnits (f : Format) (numerator denominator : Nat) : Nat :=
  let scaled := numerator * Nat.pow 2 f.fraction
  let step := f.spacing (scaled / denominator)
  roundQuotient scaled (denominator * step) * step

/-- A number of a binary format; the sign of a zero is kept. -/
inductive Binary (f : Format) where
  | nan
  | infinite (negative : Bool)
  | finite (negative : Bool) (units : Nat)
deriving Repr, Inhabited, DecidableEq

namespace Binary

variable {f : Format}

/-- A magnitude in units with a sign, infinite from the limit of the format on. -/
def ofUnits (negative : Bool) (units : Nat) : Binary f :=
  if units < f.limit then .finite negative units else .infinite negative

/-- The number nearest to a quotient. -/
def ofRatio (negative : Bool) (numerator denominator : Nat) : Binary f :=
  ofUnits negative (f.nearestUnits numerator denominator)

/-- The number nearest to a natural number. -/
def ofNat (n : Nat) : Binary f := ofRatio false n 1

/-- Where a number stands on the line of integers, infinity standing at the limit. -/
def position? : Binary f → Option Int
  | .nan => none
  | .infinite negative => some (if negative then -(f.limit : Int) else f.limit)
  | .finite negative units => some (if negative then -(units : Int) else units)

/-- The order of two numbers; nothing is comparable with what is no number. -/
def compare? (a b : Binary f) : Option Ordering :=
  match a.position?, b.position? with
  | some x, some y => some (compare x y)
  | _, _ => none

/-- A number with its sign turned. -/
def neg : Binary f → Binary f
  | .nan => .nan
  | .infinite negative => .infinite !negative
  | .finite negative units => .finite (!negative) units

/-- A finite number times another. -/
def mul (a b : Binary f) : Binary f :=
  match a, b with
  | .finite na ua, .finite nb ub => ofRatio (na != nb) (ua * ub) (Nat.pow 2 (2 * f.fraction))
  | _, _ => .nan

/-- A finite number divided by another that is not zero. -/
def div (a b : Binary f) : Binary f :=
  match a, b with
  | .finite na ua, .finite nb ub => ofRatio (na != nb) ua ub
  | _, _ => .nan

end Binary

/-- The numbers of the format with 64 bits. -/
abbrev Double := Binary Format.double

/-- The numbers of the format with 32 bits. -/
abbrev Single := Binary Format.single

end SqlMapper.Number
