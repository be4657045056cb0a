/-! Doubles as exact numbers. A finite double is a whole number of at most 53 bits times a power of
two; the double nearest to a fraction is found in whole numbers, and a fraction halfway between two
doubles goes to the one whose whole number is even. -/

set_option autoImplicit false

namespace StyleTokens.Decimal

structure Binary where
  mantissa : Nat
  exponent : Int
  deriving DecidableEq, Repr

def leastExponent : Int := -1074

def Binary.ofFloat (value : Float) : Binary :=
  let bits := value.toBits.toNat
  let fraction := bits % Nat.pow 2 52
  match bits / Nat.pow 2 52 % Nat.pow 2 11 with
  | 0 => ⟨fraction, leastExponent⟩
  | field + 1 => ⟨Nat.pow 2 52 + fraction, leastExponent + field⟩

def isNegative (value : Float) : Bool := value.toBits.toNat / Nat.pow 2 63 = 1

/-- The quotient rounded to the nearest whole number, and halfway to the even one. -/
def roundedQuotient (numerator denominator : Nat) : Nat :=
  let quotient := numerator / denominator
  let twice := 2 * (numerator % denominator)
  if twice > denominator ∨ (twice = denominator ∧ quotient % 2 = 1) then quotient + 1 else quotient

/-- The exponent at which a positive fraction has a mantissa of 53 bits, or the least one. -/
def exponentOf (numerator denominator : Nat) : Int :=
  let guess : Int := numerator.log2 - denominator.log2 - 52
  let low := numerator * Nat.pow 2 (-guess).toNat <
    denominator * Nat.pow 2 guess.toNat * Nat.pow 2 52
  max leastExponent (if low then guess - 1 else guess)

/-- The bits of the double nearest to a fraction, those of infinity if it is out of range. -/
def nearestBits (numerator denominator : Nat) : Nat :=
  if numerator = 0 then 0
  else
    let exponent := exponentOf numerator denominator
    let mantissa := roundedQuotient (numerator * Nat.pow 2 (-exponent).toNat)
      (denominator * Nat.pow 2 exponent.toNat)
    let infinity := 2047 * Nat.pow 2 52
    min infinity ((exponent - leastExponent).toNat * Nat.pow 2 52 + mantissa)

example : nearestBits 1 1 = 0x3FF0000000000000 := by decide
example : nearestBits 1 10 = 0x3FB999999999999A := by decide
example : nearestBits (2 ^ 53 + 1) 1 = nearestBits (2 ^ 53) 1 := by decide

end StyleTokens.Decimal
