import StyleTokens.Value

/-! The text of a value. Null has none, scalars have their own, and a list joins the texts of its
items by commas, where a null counts as an empty one. A callable is invoked once, and what it gives
back is rendered in its turn, unless it is a callable again. -/

set_option autoImplicit false

namespace StyleTokens

inductive RenderError where
  | unsupported (typeName : String)
  | nestedFunction
  | call (cause : CallError)
  deriving DecidableEq, Repr

def RenderError.message : RenderError → String
  | .unsupported typeName => "'" ++ typeName ++ "' type unsupported"
  | .nestedFunction => "returning a function from a function is not allowed"
  | .call _ => "function call failed"

def RenderError.chain : RenderError → List String
  | .call cause => RenderError.message (.call cause) :: cause.message :: cause.causes
  | error => [error.message]

namespace Value

variable {σ : Type}

mutual

def text? : Value σ → Except RenderError (Option String)
  | .null => .ok none
  | .boolean value => .ok (some (if value then "true" else "false"))
  | .integer value => .ok (some (toString value.toInt))
  | .bigInteger value => .ok (some (toString value))
  | .string value => .ok (some value)
  | .array items => (texts items).map fun parts => some (String.intercalate "," parts)
  | .object entries => .error (.unsupported (Value.object entries).typeName)
  | .function call => .error (.unsupported (Value.function call).typeName)

/-- The texts of the items of a list, up to the first that has none. -/
def texts : List (Value σ) → Except RenderError (List String)
  | [] => .ok []
  | item :: items =>
    match text? item with
    | .error error => .error error
    | .ok text => (texts items).map (text.getD "" :: ·)

end

/-- The replacement for a token that stands for this value; none for null. -/
def render (args : List String) (host : σ) : Value σ → Except RenderError (Option String) × σ
  | .function call =>
    match call args host with
    | (.error cause, host) => (.error (.call cause), host)
    | (.ok (.function _), host) => (.error .nestedFunction, host)
    | (.ok value, host) => (value.text?, host)
  | value => (value.text?, host)

end Value
end StyleTokens
