/-!
# The exact value of a binary64 number

A finite binary64 number is a rational: a sign, a significand and a power of two.
Everything here that leaves floating point (rounding to an integer, saturating
casts, decimal digits elsewhere) goes through that rational, so that no step
depends on how a machine rounds. Infinities and not-a-number have no value, and
each function says what it answers for them.
-/

namespace BenchFigures.Binary64

open Float.Model (UnpackedFloat)

/-- The parts of a number: its kind and, for a finite one other than zero, sign,
significand and power of two. -/
def unpack (number : Float) : UnpackedFloat := number.toModel.unpack

/-- A significand scaled by a power of two, as an exact rational. -/
def scaled (significand : Nat) (exponent : Int) : Rat :=
  if 0 ≤ exponent then ((significand * Nat.pow 2 exponent.toNat : Nat) : Rat)
  else mkRat significand (Nat.pow 2 (-exponent).toNat)

/-- The value of a finite number; infinities and not-a-number have none, and both
zeros have the value zero. -/
def value? (number : Float) : Option Rat :=
  match unpack number with
  | .notANumber | .infinity _ => none
  | .zero _ => some 0
  | .finite .positive significand exponent _ => some (scaled significand exponent)
  | .finite .negative significand exponent _ => some (-scaled significand exponent)

/-- Whether the number is finite, which is to say that it has a value. -/
def isFinite (number : Float) : Bool := (value? number).isSome

/-- The sign bit, which zeros and infinities have too. Not-a-number has none that
shows. -/
def isNegative (number : Float) : Bool :=
  match unpack number with
  | .notANumber => false
  | .infinity sign | .zero sign | .finite sign _ _ _ => sign matches .negative

/-- The greatest integer at or below a finite number. -/
def floor? (number : Float) : Option Int := (value? number).map Rat.floor

/-- The greatest whole number at or below a number. Zeros keep their sign, and what has no
value stays what it is. -/
def floor (number : Float) : Float :=
  match floor? number with
  | some whole => if number == 0.0 then number else Float.ofInt whole
  | none => number

/-- The least integer at or above a finite number. -/
def ceil? (number : Float) : Option Int := (value? number).map Rat.ceil

/-- The nearest integer to a rational, a half going away from zero. -/
def nearest (value : Rat) : Int :=
  if 0 ≤ value then (value + 1 / 2).floor else (value - 1 / 2).ceil

/-- The nearest integer to a finite number, a half going away from zero. -/
def round? (number : Float) : Option Int := (value? number).map nearest

/-- The integer part of a rational, that is, the value cut toward zero. -/
def integerPart (value : Rat) : Int := if 0 ≤ value then value.floor else value.ceil

/-- A number made an integer by a rounding rule and held within bounds. What lies
beyond a bound, infinities included, becomes that bound; not-a-number becomes zero. -/
def saturate (rounding : Rat → Int) (lowest highest : Int) (number : Float) : Int :=
  match value? number with
  | some value => max lowest (min highest (rounding value))
  | none => if number.isNaN then 0 else if isNegative number then lowest else highest

/-- A number made a 32-bit signed integer by a rounding rule. -/
def toSigned32 (rounding : Rat → Int) : Float → Int :=
  saturate rounding (-Nat.pow 2 31) (Nat.pow 2 31 - 1)

/-- A number made a 64-bit unsigned integer by a rounding rule. -/
def toUnsigned64 (rounding : Rat → Int) (number : Float) : Nat :=
  (saturate rounding 0 (Nat.pow 2 64 - 1) number).toNat

end BenchFigures.Binary64
