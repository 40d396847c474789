import FunctionStack.Number.Double

/-!
The decimal text of a floating-point number: the fewest digits that read back as the number, the nearest
such decimal among those of that length, and of two equally near ones the one whose last digit is even.
Positional notation covers `0.0001` up to below `10 ^ 16`.
-/

namespace FunctionStack.Double

def digitCount (n : Nat) : Nat := (Nat.toDigits 10 n).length

/-- The power of ten of the first digit of `numerator / denominator`. -/
def leadingPower (numerator denominator : Nat) : Int :=
  if denominator ≤ numerator then (digitCount (numerator / denominator) : Int) - 1
  else -(digitCount ((denominator - 1) / numerator) : Int)

/-- A number as a ratio, counted in units of a power of ten. -/
def inPowers (numerator denominator : Nat) (power : Int) : Nat × Nat :=
  if power < 0 then (numerator * Nat.pow 10 (-power).toNat, denominator)
  else (numerator, denominator * Nat.pow 10 power.toNat)

def readsBack (significand scale digits : Nat) (power : Int) : Bool :=
  ofDecimal false digits power = .finite false significand scale

/-- The nearest decimal with the given last place that reads back. -/
def atPlace (significand scale : Nat) (power : Int) : Option (Nat × Int) :=
  let (top, bottom) := inPowers (significand * Nat.pow 2 scale) unitsPerOne power
  let low := top / bottom
  match readsBack significand scale low power, readsBack significand scale (low + 1) power with
  | true, true => some (roundHalfEven top bottom, power)
  | true, false => some (low, power)
  | false, true => some (low + 1, power)
  | false, false => none

/-- Digits and power of ten of the shortest decimal; the exact expansion stands in if none is short. -/
def shortest (significand scale : Nat) : Nat × Int :=
  let first := leadingPower (significand * Nat.pow 2 scale) unitsPerOne
  ((List.range 17).findSome? fun (i : Nat) => atPlace significand scale (first - i)).getD
    (significand * Nat.pow 2 scale * Nat.pow 5 1074, -1074)

def dropZeros (digits : List Char) : List Char :=
  match (digits.reverse.dropWhile (· = '0')).reverse with
  | [] => ['0']
  | kept => kept

/-- At least two digits behind a sign. -/
def exponentText (exponent : Int) : List Char :=
  let size := Nat.toDigits 10 exponent.natAbs
  (if exponent < 0 then '-' else '+') :: (if size.length < 2 then '0' :: size else size)

/-- Writes `d.igits · 10 ^ exponent`. -/
def scientific (digits : List Char) (exponent : Int) : List Char :=
  let fraction := digits.drop 1
  digits.take 1 ++ (if fraction.isEmpty then [] else '.' :: fraction) ++ 'e' :: exponentText exponent

/-- Writes `0.digits · 10 ^ point`. -/
def layout (digits : List Char) (point : Int) : List Char :=
  let count : Int := digits.length
  if -4 < point ∧ point ≤ 16 then
    if point ≤ 0 then '0' :: '.' :: (List.replicate (-point).toNat '0' ++ digits)
    else if count ≤ point then digits ++ List.replicate (point - count).toNat '0' ++ ['.', '0']
    else digits.take point.toNat ++ '.' :: digits.drop point.toNat
  else scientific digits (point - 1)

def magnitudeText (significand scale : Nat) : List Char :=
  if significand = 0 then ['0', '.', '0']
  else
    let (digits, power) := shortest significand scale
    let written := Nat.toDigits 10 digits
    layout (dropZeros written) (written.length + power)

end FunctionStack.Double
