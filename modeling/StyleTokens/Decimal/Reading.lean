import StyleTokens.Decimal.Binary

/-! Decimal literals: digits with an optional sign, point and exponent, or the names of infinity and
of what is not a number in any case. A literal means the double nearest to it. -/

set_option autoImplicit false

namespace StyleTokens.Decimal

structure Literal where
  negative : Bool
  digits : Nat
  exponent : Int
  deriving DecidableEq, Repr

def digitValue (c : Char) : Nat := c.toNat - '0'.toNat

def digitsValue (digits : List Char) (before : Nat) : Nat :=
  digits.foldl (fun value c => value * 10 + digitValue c) before

def signOf : List Char → Bool × List Char
  | '-' :: rest => (true, rest)
  | '+' :: rest => (false, rest)
  | rest => (false, rest)

def exponentOf? : List Char → Option Int
  | [] => some 0
  | mark :: rest =>
    let (negative, digits) := signOf rest
    if (mark = 'e' ∨ mark = 'E') ∧ digits ≠ [] ∧ digits.all Char.isDigit then
      let value : Int := digitsValue digits 0
      some (if negative then -value else value)
    else none

def Literal.ofChars? (text : List Char) : Option Literal := do
  let (negative, text) := signOf text
  let whole := text.takeWhile Char.isDigit
  let (fraction, rest) := match text.dropWhile Char.isDigit with
    | '.' :: rest => (rest.takeWhile Char.isDigit, rest.dropWhile Char.isDigit)
    | rest => ([], rest)
  if whole = [] ∧ fraction = [] then failure
  let exponent ← exponentOf? rest
  return ⟨negative, digitsValue fraction (digitsValue whole 0), exponent - fraction.length⟩

/-- The bits of the nearest magnitude. Literals far outside the range of doubles need no powers. -/
def Literal.bits (literal : Literal) : Nat :=
  let places : Int := literal.exponent + (Nat.toDigits 10 literal.digits).length
  if literal.digits = 0 ∨ places < -400 then 0
  else if 400 < places then 2047 * Nat.pow 2 52
  else nearestBits (literal.digits * Nat.pow 10 literal.exponent.toNat) (Nat.pow 10 (-literal.exponent).toNat)

def Literal.toFloat (literal : Literal) : Float :=
  let magnitude := Float.ofBits (UInt64.ofNat literal.bits)
  if literal.negative then -magnitude else magnitude

def read? (text : String) : Option Float :=
  let (negative, name) := signOf text.toList
  let sign (value : Float) : Float := if negative then -value else value
  let name := String.ofList (name.map Char.toLower)
  if name = "inf" ∨ name = "infinity" then some (sign (1 / 0))
  else if name = "nan" then some (sign (0 / 0))
  else (Literal.ofChars? text.toList).map Literal.toFloat

end StyleTokens.Decimal
