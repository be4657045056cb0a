import StyleTokens.Number

/-! HCL documents as trees. -/

set_option autoImplicit false

namespace StyleTokens.Hcl

inductive Node where
  | null
  | boolean (value : Bool)
  | number (value : Number)
  | string (value : String)
  | array (items : List Node)
  | object (entries : List (String × Node))

def numberLayout : Decimal.Layout :=
  ⟨fun place => -5 ≤ place && place < 16, ".0", "", "inf", "NaN", .even⟩

/-- A double that has no fraction is a whole number, if it has 64 bits. -/
def double (value : Float) : Number :=
  if value.floor != value then .float value
  else if 0 ≤ value && value < 18446744073709551616.0 then .natural value.toUInt64
  else if -9223372036854775808.0 ≤ value && value < 0 then .negative value.toInt64
  else .float value

/-- The opposite of a number, a double if it is whole and has no opposite of 64 bits. -/
def opposite : Number → Number
  | .natural value => (Number.ofInt? (-value.toNat)).getD (.float (-value.toFloat))
  | .negative value => (Number.ofInt? (-value.toInt)).getD (.float (-value.toFloat))
  | .float value => .float (-value)

def settled : Number → Number
  | .float value => double value
  | number => number

variable {σ : Type}

mutual

def Node.toValue : Node → Value σ
  | .null => .null
  | .boolean value => .boolean value
  | .number value => value.toValue numberLayout
  | .string value => .string value
  | .array items => .array (toValues items)
  | .object entries => .ofEntries (toEntries entries)

def toValues : List Node → List (Value σ)
  | [] => []
  | item :: items => item.toValue :: toValues items

def toEntries : List (String × Node) → List (String × Value σ)
  | [] => []
  | (key, item) :: entries => (key, item.toValue) :: toEntries entries

end

end StyleTokens.Hcl
