import StyleTokens.Decimal.Layout
import StyleTokens.Value

/-! Numbers of the configuration formats: whole numbers of 64 bits are exact, and all others are
doubles. A value map has no type for a double and keeps its text, as the format writes it. -/

set_option autoImplicit false

namespace StyleTokens

inductive Number where
  | natural (value : UInt64)
  | negative (value : Int64)
  | float (value : Float)

namespace Number

def text (layout : Decimal.Layout) : Number → String
  | .natural value => toString value.toNat
  | .negative value => toString value.toInt
  | .float value => layout.write value

def toInt64? : Number → Option Int64
  | .natural value => if value.toNat < Nat.pow 2 63 then some value.toInt64 else none
  | .negative value => some value
  | .float _ => none

def toUInt64? : Number → Option UInt64
  | .natural value => some value
  | _ => none

def toValue {σ : Type} (layout : Decimal.Layout) (number : Number) : Value σ :=
  .ofReadings number.toInt64? number.toUInt64? (number.text layout)

def ofInt? (value : Int) : Option Number :=
  if 0 ≤ value then if value < Int.pow 2 64 then some (.natural (UInt64.ofNat value.toNat)) else none
  else if -Int.pow 2 63 ≤ value then some (.negative (Int64.ofInt value)) else none

end Number
end StyleTokens
