import StyleTokens.Text.Blank
import StyleTokens.Yaml.Writer

/-! Values from YAML documents. Tags are dropped. A key that is no string becomes its text, which is
empty for null; keys with one text are one key. -/

set_option autoImplicit false

namespace StyleTokens.Yaml

/-- Whether a mapping has one entry, whose key is a mapping of one entry again or has a tag. -/
def hasNestedKey : List (Node × Node) → Bool
  | [(.mapping [_], _)] | [(.tagged _ _, _)] => true
  | _ => false

mutual

/-- Whether a node has a text. A mapping with a nested key has one only under a tag. -/
def hasText (tagged : Bool) : Node → Bool
  | .sequence items => itemsHaveText items
  | .mapping entries =>
    (tagged || !hasNestedKey entries) && entriesHaveText entries
  | .tagged _ node => hasText true node
  | _ => true

def itemsHaveText : List Node → Bool
  | [] => true
  | item :: items => hasText false item && itemsHaveText items

def entriesHaveText : List (Node × Node) → Bool
  | [] => true
  | (key, value) :: entries => hasText false key && hasText false value && entriesHaveText entries

end

def keyText : Node → String
  | .string value => value
  | .boolean value => if value then "true" else "false"
  | .number value => value.text numberLayout
  | .null => ""
  | node => if hasText false node then Text.trimEnd (write node) else ""

variable {σ : Type}

mutual

def Node.toValue : Node → Value σ
  | .null => .null
  | .boolean value => .boolean value
  | .number value => value.toValue numberLayout
  | .string value => .string value
  | .sequence items => .array (toValues items)
  | .mapping entries => .ofEntries (toEntries entries)
  | .tagged _ node => node.toValue

def toValues : List Node → List (Value σ)
  | [] => []
  | item :: items => item.toValue :: toValues items

def toEntries : List (Node × Node) → List (String × Value σ)
  | [] => []
  | (key, value) :: entries => (keyText key, value.toValue) :: toEntries entries

end

end StyleTokens.Yaml
