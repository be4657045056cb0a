import StyleTokens.Json.Writer
import StyleTokens.Token
import StyleTokens.Yaml.Writer

/-! Lists of tokens as documents. Each token has its fields in a fixed order; a missing suffix is an
empty text. -/

set_option autoImplicit false

namespace StyleTokens

def Token.suffixText (token : Token) : String := token.suffix.elim "" Char.toString

namespace Json

def ofNat (n : Nat) : Node := .number (.natural (UInt64.ofNat n))

def ofTexts (texts : List String) : Node := .array (texts.map .string)

def ofToken (token : StyleTokens.Token) : Node :=
  .object [("start", ofNat token.start), ("end", ofNat token.stop), ("raw", .string token.raw),
    ("suffix", .string token.suffixText), ("path", ofTexts token.path),
    ("args", ofTexts token.args)]

def ofTokens (tokens : List StyleTokens.Token) : Node := .array (tokens.map ofToken)

end Json

namespace Yaml

def ofNat (n : Nat) : Node := .number (.natural (UInt64.ofNat n))

def ofTexts (texts : List String) : Node := .sequence (texts.map .string)

def ofToken (token : StyleTokens.Token) : Node :=
  .mapping [(.string "start", ofNat token.start), (.string "end", ofNat token.stop),
    (.string "raw", .string token.raw), (.string "suffix", .string token.suffixText),
    (.string "path", ofTexts token.path), (.string "args", ofTexts token.args)]

def ofTokens (tokens : List StyleTokens.Token) : Node := .sequence (tokens.map ofToken)

end Yaml
end StyleTokens
