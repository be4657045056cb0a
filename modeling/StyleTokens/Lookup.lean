import StyleTokens.Value

/-! Looking up a path in layers of values. The first layer that defines the whole path decides;
where a path breaks off in one layer, the next one is asked. A null at the end of a path is a value
like any other. -/

set_option autoImplicit false

namespace StyleTokens

variable {σ : Type}

def Value.get? (key : String) : Value σ → Option (Value σ)
  | .object entries => entries.lookup key
  | _ => none

/-- The value at the end of a path, one key after the other. -/
def Value.walk? : List String → Value σ → Option (Value σ)
  | [], value => some value
  | key :: path, value => (value.get? key).bind (walk? path)

def lookup (layers : List (Value σ)) (path : List String) : Option (Value σ) :=
  layers.findSome? (Value.walk? path)

end StyleTokens
