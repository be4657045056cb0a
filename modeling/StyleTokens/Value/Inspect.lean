import StyleTokens.Text.Inspect
import StyleTokens.Value

/-! Values shown with their types, for inspection: on one line, or with one item a line. -/

set_option autoImplicit false

namespace StyleTokens.Value

variable {σ : Type}

def listed (parts : List String) : String := String.intercalate ", " parts

mutual

def inspect : Value σ → String
  | .null => "Null"
  | .boolean value => "Boolean(" ++ (if value then "true" else "false") ++ ")"
  | .integer value => "Integer(" ++ toString value.toInt ++ ")"
  | .bigInteger value => "BigInteger(" ++ toString value ++ ")"
  | .string value => "String(" ++ Text.inspect value ++ ")"
  | .array items => "Array([" ++ listed (inspectItems items) ++ "])"
  | .object entries => "Object(\x7b" ++ listed (inspectEntries entries) ++ "\x7d)"
  | .function _ => "Function(Function(..))"

def inspectItems : List (Value σ) → List String
  | [] => []
  | item :: items => inspect item :: inspectItems items

def inspectEntries : List (String × Value σ) → List String
  | [] => []
  | (key, value) :: entries =>
    (Text.inspect key ++ ": " ++ inspect value) :: inspectEntries entries

end

def lineStart (depth : Nat) : String := "\n" ++ String.ofList (List.replicate (4 * depth) ' ')

def block (opening closing : String) (depth : Nat) (parts : List String) : String :=
  match parts with
  | [] => opening ++ closing
  | _ =>
    opening ++ String.join (parts.map fun part => lineStart (depth + 1) ++ part ++ ",") ++
      lineStart depth ++ closing

mutual

/-- The value with one item a line, from a line that is `depth` levels deep. -/
def outline (depth : Nat) : Value σ → String
  | .null => "Null"
  | .boolean value => block "Boolean(" ")" depth [if value then "true" else "false"]
  | .integer value => block "Integer(" ")" depth [toString value.toInt]
  | .bigInteger value => block "BigInteger(" ")" depth [toString value]
  | .string value => block "String(" ")" depth [Text.inspect value]
  | .array items =>
    block "Array(" ")" depth [block "[" "]" (depth + 1) (outlineItems (depth + 2) items)]
  | .object entries =>
    block "Object(" ")" depth
      [block "\x7b" "\x7d" (depth + 1) (outlineEntries (depth + 2) entries)]
  | .function _ => block "Function(" ")" depth ["Function(..)"]

def outlineItems (depth : Nat) : List (Value σ) → List String
  | [] => []
  | item :: items => outline depth item :: outlineItems depth items

def outlineEntries (depth : Nat) : List (String × Value σ) → List String
  | [] => []
  | (key, value) :: entries =>
    (Text.inspect key ++ ": " ++ outline depth value) :: outlineEntries depth entries

end

end StyleTokens.Value
