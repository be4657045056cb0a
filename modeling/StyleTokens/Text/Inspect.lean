import StyleTokens.Text.Blank
import StyleTokens.Text.Unprintable

/-! The text of a string for inspection: in double quotes, with escapes for the quote, the
backslash, the usual controls, and every other character that would leave no mark of its own. -/

set_option autoImplicit false

namespace StyleTokens.Text

def escape (c : Char) : String :=
  match c with
  | '\x00' => "\\0"
  | '\t' => "\\t"
  | '\n' => "\\n"
  | '\r' => "\\r"
  | '"' => "\\\""
  | '\\' => "\\\\"
  | _ =>
    if inRanges unprintableRanges c.toNat then
      "\\u\x7b" ++ String.ofList (Nat.toDigits 16 c.toNat) ++ "\x7d"
    else c.toString

def inspect (text : String) : String := "\"" ++ String.join (text.toList.map escape) ++ "\""

end StyleTokens.Text
