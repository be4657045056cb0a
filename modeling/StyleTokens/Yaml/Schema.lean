import StyleTokens.Decimal.Reading
import StyleTokens.Text.Hex
import StyleTokens.Yaml.Node

/-! The core schema: what a plain scalar means. Whole numbers may have a sign and be hexadecimal,
octal or binary, but not begin with a needless zero; those that need more than 64 bits cannot be
represented, unless they need more than 128, which makes them doubles. -/

set_option autoImplicit false

namespace StyleTokens.Yaml

def null? (text : String) : Bool := ["null", "Null", "NULL", "~"].contains text

def boolean? (text : String) : Option Bool :=
  if ["true", "True", "TRUE"].contains text then some true
  else if ["false", "False", "FALSE"].contains text then some false
  else none

def hasLeadingZero (text : List Char) : Bool :=
  let digits := match text with
    | '-' :: rest | '+' :: rest => rest
    | rest => rest
  match digits with
  | '0' :: c :: rest => (c :: rest).all Char.isDigit
  | _ => false

def natural? (base : Nat) (digits : List Char) : Option Nat :=
  if digits = [] then none
  else digits.foldlM (fun value c =>
    match Text.hexValue? c with
    | some digit => if digit < base then some (value * base + digit) else none
    | none => none) 0

def magnitude? : List Char → Option Nat
  | '0' :: 'x' :: digits => natural? 16 digits
  | '0' :: 'o' :: digits => natural? 8 digits
  | '0' :: 'b' :: digits => natural? 2 digits
  | digits => natural? 10 digits

def integer? (text : List Char) : Option Int :=
  if hasLeadingZero text then none
  else match text with
    | '-' :: rest => (magnitude? rest).map fun size => -(size : Int)
    | '+' :: rest => (magnitude? rest).map fun size => (size : Int)
    | rest => (magnitude? rest).map fun size => (size : Int)

def float? (text : String) : Option Float :=
  let unsigned := match text.toList with
    | '+' :: rest => rest
    | rest => rest
  if text.toList.head? = some '+' ∧ unsigned.head?.any (fun c => c == '+' || c == '-') then none
  else
    let name := String.ofList unsigned
    if [".inf", ".Inf", ".INF"].contains name then some (1 / 0)
    else if ["-.inf", "-.Inf", "-.INF"].contains text then some (-1 / 0)
    else if [".nan", ".NaN", ".NAN"].contains text then some (0 / 0)
    else match Decimal.read? name with
      | some value => if value.isFinite then some value else none
      | none => none

def isWide (value : Int) : Bool := -Int.pow 2 127 ≤ value && value < Int.pow 2 128

/-- A whole number as a node, of 64 bits; nothing more if it has 128, and no number otherwise. -/
def integerNode? (text : List Char) : Option (Option Node) :=
  match integer? text with
  | none => none
  | some value =>
    match Number.ofInt? value with
    | some number => some (some (.number number))
    | none => if isWide value then some none else none

def plainNode? (text : String) : Option Node :=
  if text = "" || null? text then some .null
  else match boolean? text with
    | some value => some (.boolean value)
    | none =>
      match integerNode? text.toList with
      | some node? => node?
      | none =>
        match if hasLeadingZero text.toList then none else float? text with
        | some value => some (.number (.float value))
        | none => some (.string text)

/-- What a scalar means under a tag that does not belong to the document. -/
def scalarNode? (tag : Option String) (text : String) (plain : Bool) : Option Node :=
  match tag with
  | none => if plain then plainNode? text else some (.string text)
  | some "tag:yaml.org,2002:bool" => (boolean? text).map .boolean
  | some "tag:yaml.org,2002:int" => (integerNode? text.toList).join
  | some "tag:yaml.org,2002:float" => (float? text).map fun value => .number (.float value)
  | some "tag:yaml.org,2002:null" => if null? text then some .null else none
  | some _ => some (.string text)

end StyleTokens.Yaml
