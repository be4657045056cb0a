import StyleTokens.Number

/-! JSON documents as trees. -/

set_option autoImplicit false

namespace StyleTokens.Json

inductive Node where
  | null
  | boolean (value : Bool)
  | number (value : Number)
  | string (value : String)
  | array (items : List Node)
  | object (entries : List (String × Node))

/-- Doubles have an exponent with a sign from 10¹⁶ on and below 10⁻⁵, and a point without one. -/
def numberLayout : Decimal.Layout :=
  ⟨fun place => -5 ≤ place && place < 16, ".0", "+", "null", "null", .even⟩

variable {σ : Type}

mutual

def Node.toValue : Node → Value σ
  | .null => .null
  | .boolean value => .boolean value
  | .number value => value.toValue numberLayout
  | .string value => .string value
  | .array items => .array (toValues items)
  | .object entries => .ofEntries (toEntries entries)

def toValues : List Node → List (Value σ)
  | [] => []
  | item :: items => item.toValue :: toValues items

def toEntries : List (String × Node) → List (String × Value σ)
  | [] => []
  | (key, item) :: entries => (key, item.toValue) :: toEntries entries

end

end StyleTokens.Json
