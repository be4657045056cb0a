import StyleTokens.Decimal.Reading
import StyleTokens.Number

/-! Numerals of JSON. A numeral without point and exponent is a whole number if it has 64 bits and
is not a negative zero. Any other is a double: the leading digits that fit 64 bits are scaled by
powers of ten in the arithmetic of doubles, which need not give the nearest double. -/

set_option autoImplicit false

namespace StyleTokens.Json

open Decimal (digitValue)

def powerOfTen (exponent : Nat) : Float :=
  Float.ofBits (UInt64.ofNat (Decimal.nearestBits (Nat.pow 10 exponent) 1))

def greatestPower : Nat := 308

-- Scales a double by a power of ten, in several steps if the power is very small; nothing if the
-- result is out of range. Four steps take any double to zero.
def scale (value : Float) (exponent : Int) : Nat → Option Float
  | 0 => some 0
  | steps + 1 =>
    if exponent.natAbs ≤ greatestPower then
      if 0 ≤ exponent then
        let scaled := value * powerOfTen exponent.natAbs
        if scaled.isInf then none else some scaled
      else some (value / powerOfTen exponent.natAbs)
    else if value == 0 then some value
    else if 0 ≤ exponent then none
    else scale (value / powerOfTen greatestPower) (exponent + greatestPower) steps

-- The digits read so far as a number of 64 bits, the power of ten to scale it by, and whether a
-- digit had no room.
structure Significand where
  value : Nat
  exponent : Int
  full : Bool

/-- Adds the digits before the point; after the first one without room, each counts as a zero. -/
def Significand.addWhole (significand : Significand) : List Char → Significand
  | [] => significand
  | c :: rest =>
    let next := significand.value * 10 + digitValue c
    if significand.full || Nat.pow 2 64 ≤ next then
      addWhole { significand with exponent := significand.exponent + 1, full := true } rest
    else addWhole { significand with value := next } rest

/-- Adds the digits after the point, up to the first one without room. -/
def Significand.addFraction (significand : Significand) : List Char → Significand
  | [] => significand
  | c :: rest =>
    let next := significand.value * 10 + digitValue c
    if Nat.pow 2 64 ≤ next then significand
    else addFraction { significand with value := next, exponent := significand.exponent - 1 } rest

def exponentLimit : Nat := Nat.pow 2 31

def doubleOf? (significand : Significand) (negative : Bool) (digits : List Char) : Option Float :=
  let written := Decimal.digitsValue digits 0
  let value := (UInt64.ofNat significand.value).toFloat
  if exponentLimit ≤ written then
    if significand.value ≠ 0 ∧ ¬negative then none else some 0
  else scale value (significand.exponent + (if negative then -(written : Int) else written)) 5

def digits? (text : List Char) : Option (List Char × List Char) :=
  match text.takeWhile Char.isDigit with
  | [] => none
  | digits => some (digits, text.dropWhile Char.isDigit)

def numeral? (text : List Char) : Option (Number × List Char) := do
  let (negative, text) := match text with
    | '-' :: rest => (true, rest)
    | rest => (false, rest)
  let (whole, rest) ← digits? text
  if whole.head? = some '0' ∧ whole.length ≠ 1 then failure
  let significand := Significand.addWhole ⟨0, 0, false⟩ whole
  let sign (value : Float) : Number := .float (if negative then -value else value)
  let (fraction, significand, rest) ← match rest with
    | '.' :: rest => do
      let (digits, rest) ← digits? rest
      pure (true, significand.addFraction digits, rest)
    | rest => pure (false, significand, rest)
  match rest with
  | c :: rest =>
    if c = 'e' ∨ c = 'E' then
      let (below, rest) := Decimal.signOf rest
      let (digits, rest) ← digits? rest
      return (sign (← doubleOf? significand below digits), rest)
  | [] => pure ()
  if fraction || significand.full || (negative && significand.value = 0) then
    return (sign (← doubleOf? significand false []), rest)
  let value : Int := significand.value
  match Number.ofInt? (if negative then -value else value) with
  | some number => return (number, rest)
  | none => return (sign (UInt64.ofNat significand.value).toFloat, rest)

end StyleTokens.Json
