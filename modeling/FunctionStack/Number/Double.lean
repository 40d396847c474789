/-!
Binary floating-point numbers as exact data: a sign, a significand below `2 ^ 53` and a power of two,
counted in units of the smallest positive number. Reading a decimal rounds it to the nearest one.
-/

namespace FunctionStack

/-- A finite number is `± significand · 2 ^ scale` units of `2 ^ (-1074)`. -/
inductive Double where
  | finite (negative : Bool) (significand scale : Nat)
  | infinite (negative : Bool)
  | nan
  deriving DecidableEq, Repr

namespace Double

/-- The integer nearest to `numerator / denominator`, a half going to the even neighbour. -/
def roundHalfEven (numerator denominator : Nat) : Nat :=
  let quotient := numerator / denominator
  let remainder := numerator % denominator
  if 2 * remainder < denominator then quotient
  else if denominator < 2 * remainder then quotient + 1
  else quotient + quotient % 2

def unitsPerOne : Nat := Nat.pow 2 1074

/-- A significand at its scale, which is infinite beyond the largest one. -/
def bounded (negative : Bool) (significand scale : Nat) : Double :=
  if scale ≤ 2045 then .finite negative significand scale else .infinite negative

/-- A rounded significand; one that was rounded up to `2 ^ 53` moves to the next scale. -/
def packed (negative : Bool) (significand scale : Nat) : Double :=
  if significand = Nat.pow 2 53 then bounded negative (Nat.pow 2 52) (scale + 1)
  else bounded negative significand scale

/-- The scale at which a number of units has a significand of 53 bits, or zero. -/
def scaleOf (units : Nat) : Nat := Nat.log2 units - 52

/-- The number nearest to `numerator / denominator`. -/
def ofRatio (negative : Bool) (numerator denominator : Nat) : Double :=
  let units := numerator * unitsPerOne
  let scale := scaleOf (units / denominator)
  packed negative (roundHalfEven units (denominator * Nat.pow 2 scale)) scale

/-- The number nearest to `digits · 10 ^ exponent`. -/
def ofDecimal (negative : Bool) (digits : Nat) (exponent : Int) : Double :=
  if 0 ≤ exponent then ofRatio negative (digits * Nat.pow 10 exponent.toNat) 1
  else ofRatio negative digits (Nat.pow 10 (-exponent).toNat)

/-- Like `ofDecimal`, without raising ten to powers that only reach infinity or zero. -/
def ofDigits (negative : Bool) (digits : Nat) (digitCount : Nat) (exponent : Int) : Double :=
  if digits = 0 then .finite negative 0 0
  else if 400 < exponent + digitCount then .infinite negative
  else if exponent + digitCount < -400 then .finite negative 0 0
  else ofDecimal negative digits exponent

/-- The exact value in units, for a finite number. -/
def units? : Double → Option Int
  | .finite negative significand scale =>
    let size : Int := (significand * Nat.pow 2 scale : Nat)
    some (if negative then -size else size)
  | _ => none

def isFinite : Double → Bool
  | .finite _ _ _ => true
  | _ => false

def isZero : Double → Bool
  | .finite _ significand _ => significand = 0
  | _ => false

/-- The integer a number equals, if it equals one. -/
def toInt? (number : Double) : Option Int := do
  let units ← number.units?
  if units % (unitsPerOne : Int) = 0 then some (units / (unitsPerOne : Int)) else none

/-- Equality as values: both zeros are one number, and `nan` is itself. -/
def equals : Double → Double → Bool
  | .infinite a, .infinite b => a = b
  | .nan, .nan => true
  | a, b => match a.units?, b.units? with
    | some x, some y => x = y
    | _, _ => false

def equalsInt (number : Double) (integer : Int) : Bool :=
  number.units? = some (integer * (unitsPerOne : Int))

end Double

end FunctionStack
