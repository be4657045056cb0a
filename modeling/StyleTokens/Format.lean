import StyleTokens.Hcl.Body
import StyleTokens.Json.Reader
import StyleTokens.Path
import StyleTokens.Yaml.Compose
import StyleTokens.Yaml.Value

/-! The formats that value maps are written in. -/

set_option autoImplicit false

namespace StyleTokens

inductive Format where
  | json
  | yaml
  | hcl
  deriving DecidableEq, Repr

namespace Format

def name : Format → String
  | .json => "json"
  | .yaml => "yaml"
  | .hcl => "hcl"

def ofPath? (path : String) : Option Format :=
  match Path.extension? path with
  | some "json" => some .json
  | some "yaml" | some "yml" => some .yaml
  | some "hcl" => some .hcl
  | _ => none

def read? {σ : Type} (format : Format) (contents : String) : Option (Value σ) :=
  match format with
  | .json => (Json.read? contents).map Json.Node.toValue
  | .yaml => (Yaml.read? contents).map Yaml.Node.toValue
  | .hcl => (Hcl.read? contents).map Hcl.Node.toValue

end Format
end StyleTokens
