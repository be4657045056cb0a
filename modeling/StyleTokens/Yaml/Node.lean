import StyleTokens.Number

/-! YAML documents as trees, with scalars read as the core schema has it. A tag that belongs to the
document stays with its node. -/

set_option autoImplicit false

namespace StyleTokens.Yaml

inductive Node where
  | null
  | boolean (value : Bool)
  | number (value : Number)
  | string (value : String)
  | sequence (items : List Node)
  | mapping (entries : List (Node × Node))
  | tagged (tag : String) (node : Node)

instance : Inhabited Node := ⟨.null⟩

/-- Doubles have an exponent from 10¹⁶ on and below 10⁻⁵, and a point without one. -/
def numberLayout : Decimal.Layout :=
  ⟨fun place => -5 ≤ place && place < 16, ".0", "", ".inf", ".nan", .even⟩

def sameNumber : Number → Number → Bool
  | .natural first, .natural second => first == second
  | .negative first, .negative second => first == second
  | .float first, .float second => first == second || (first.isNaN && second.isNaN)
  | _, _ => false

mutual

/-- Whether two nodes are the same key. The order of the entries of a mapping does not count. -/
def same : Node → Node → Bool
  | .null, .null => true
  | .boolean first, .boolean second => first == second
  | .number first, .number second => sameNumber first second
  | .string first, .string second => first == second
  | .sequence first, .sequence second => sameItems first second
  | .mapping first, .mapping second =>
    first.length == second.length && sameEntries first second
  | .tagged tag first, .tagged tag' second => tag == tag' && same first second
  | _, _ => false

def sameItems : List Node → List Node → Bool
  | [], [] => true
  | item :: items, item' :: items' => same item item' && sameItems items items'
  | _, _ => false

def sameEntries : List (Node × Node) → List (Node × Node) → Bool
  | [], _ => true
  | (key, value) :: entries, others =>
    others.any (fun other => same key other.1 && same value other.2) && sameEntries entries others

end

end StyleTokens.Yaml
