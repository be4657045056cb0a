import StyleTokens.Decimal.Shortest

/-! How a format writes a number, once its digits are known. -/

set_option autoImplicit false

namespace StyleTokens.Decimal

structure Layout where
  /-- Whether a number whose first digit stands for `10 ^ place` is written without exponent. -/
  positional : Int → Bool
  whole : String
  plus : String
  infinity : String
  notANumber : String
  tie : Tie

def zeros (count : Nat) : String := String.ofList (List.replicate count '0')

namespace Layout

/-- Digits of which the first stands for `10 ^ place`. -/
def writeDigits (layout : Layout) (digits : List Char) (place : Int) : String :=
  if layout.positional place then
    if place < 0 then "0." ++ zeros (-place - 1).toNat ++ String.ofList digits
    else
      let length := place.toNat + 1
      match digits.drop length with
      | [] => String.ofList digits ++ zeros (length - digits.length) ++ layout.whole
      | fraction => String.ofList (digits.take length) ++ "." ++ String.ofList fraction
  else
    let fraction := match digits.drop 1 with
      | [] => ""
      | fraction => "." ++ String.ofList fraction
    let sign := if place < 0 then "" else layout.plus
    String.ofList (digits.take 1) ++ fraction ++ "e" ++ sign ++ toString place

def write (layout : Layout) (value : Float) : String :=
  if value.isNaN then layout.notANumber
  else
    let sign := if isNegative value then "-" else ""
    if value.isInf then sign ++ layout.infinity
    else
      let binary := Binary.ofFloat value
      if binary.mantissa = 0 then sign ++ layout.writeDigits ['0'] 0
      else
        let decimal := shortest layout.tie binary
        let digits := Nat.toDigits 10 decimal.digits
        let place := decimal.exponent + digits.length - 1
        let significant := (digits.reverse.dropWhile (· == '0')).reverse
        sign ++ layout.writeDigits significant place

end Layout
end StyleTokens.Decimal
