import StyleTokens.Json.Node

/-! Writing JSON documents, one item a line, indented by two blanks a level. -/

set_option autoImplicit false

namespace StyleTokens.Json

def hexByte (code : Nat) : String :=
  String.ofList ((Nat.toDigits 16 (256 + code)).drop 1)

def escape (c : Char) : String :=
  match c with
  | '"' => "\\\""
  | '\\' => "\\\\"
  | '\x08' => "\\b"
  | '\x0c' => "\\f"
  | '\n' => "\\n"
  | '\r' => "\\r"
  | '\t' => "\\t"
  | _ => if c.toNat < 0x20 then "\\u00" ++ hexByte c.toNat else c.toString

def quote (text : String) : String := "\"" ++ String.join (text.toList.map escape) ++ "\""

def lineStart (depth : Nat) : String := "\n" ++ String.ofList (List.replicate (2 * depth) ' ')

def block (opening closing : String) (depth : Nat) (parts : List String) : String :=
  match parts with
  | [] => opening ++ closing
  | _ =>
    opening ++ String.intercalate "," (parts.map (lineStart (depth + 1) ++ ·)) ++
      lineStart depth ++ closing

mutual

def write (depth : Nat) : Node → String
  | .null => "null"
  | .boolean value => if value then "true" else "false"
  | .number value => value.text numberLayout
  | .string value => quote value
  | .array items => block "[" "]" depth (writeItems (depth + 1) items)
  | .object entries => block "\x7b" "\x7d" depth (writeEntries (depth + 1) entries)

def writeItems (depth : Nat) : List Node → List String
  | [] => []
  | item :: items => write depth item :: writeItems depth items

def writeEntries (depth : Nat) : List (String × Node) → List String
  | [] => []
  | (key, value) :: entries =>
    (quote key ++ ": " ++ write depth value) :: writeEntries depth entries

end

end StyleTokens.Json
