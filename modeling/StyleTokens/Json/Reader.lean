import StyleTokens.Json.Node
import StyleTokens.Json.Numeral
import StyleTokens.Text.Hex

/-! Reading JSON documents. The entries of an object come out in the order of their keys, compared
by code points; of several entries with one key the last one counts. -/

set_option autoImplicit false

namespace StyleTokens.Json

def isSpace (c : Char) : Bool := c == ' ' || c == '\n' || c == '\t' || c == '\r'

def skipSpace (text : List Char) : List Char := text.dropWhile isSpace

def unit? : List Char → Option (Nat × List Char)
  | a :: b :: c :: d :: rest => (Text.hexNumber? [a, b, c, d]).map fun code => (code, rest)
  | _ => none

def isHighSurrogate (unit : Nat) : Bool := 0xD800 ≤ unit && unit < 0xDC00
def isLowSurrogate (unit : Nat) : Bool := 0xDC00 ≤ unit && unit < 0xE000

/-- The character of one unit, or of two that form a pair. -/
def unicodeEscape? (text : List Char) : Option (Char × List Char) := do
  let (first, rest) ← unit? text
  if isHighSurrogate first then
    match rest with
    | '\\' :: 'u' :: rest =>
      let (second, rest) ← unit? rest
      if isLowSurrogate second then
        return (Char.ofNat (0x10000 + (first - 0xD800) * 0x400 + (second - 0xDC00)), rest)
      else none
    | _ => none
  else if isLowSurrogate first then none
  else return (Char.ofNat first, rest)

def simpleEscape? : Char → Option Char
  | '"' => some '"'
  | '\\' => some '\\'
  | '/' => some '/'
  | 'b' => some '\x08'
  | 'f' => some '\x0c'
  | 'n' => some '\n'
  | 'r' => some '\r'
  | 't' => some '\t'
  | _ => none

def stringFrom (taken : List Char) : Nat → List Char → Option (String × List Char)
  | 0, _ => none
  | _, [] => none
  | steps + 1, c :: rest =>
    if c = '"' then some (String.ofList taken.reverse, rest)
    else if c = '\\' then
      match rest with
      | 'u' :: rest => do
        let (c, rest) ← unicodeEscape? rest
        stringFrom (c :: taken) steps rest
      | c :: rest => do stringFrom ((← simpleEscape? c) :: taken) steps rest
      | [] => none
    else if c.toNat < 0x20 then none
    else stringFrom (c :: taken) steps rest

def string? (text : List Char) : Option (String × List Char) :=
  match text with
  | '"' :: rest => stringFrom [] (rest.length + 1) rest
  | _ => none

/-- Puts an entry in its place by the order of keys; a known key gets the new value. -/
def insertEntry {α : Type} (key : String) (value : α) : List (String × α) → List (String × α)
  | [] => [(key, value)]
  | (known, old) :: rest =>
    if key = known then (known, value) :: rest
    else if key < known then (key, value) :: (known, old) :: rest
    else (known, old) :: insertEntry key value rest

def depthLimit : Nat := 127

mutual

/-- Reads a node after the spaces before it. `steps` bounds the number of nested calls. -/
def node (depth : Nat) : Nat → List Char → Option (Node × List Char)
  | 0, _ => none
  | steps + 1, text =>
    match skipSpace text with
    | 'n' :: 'u' :: 'l' :: 'l' :: rest => some (.null, rest)
    | 't' :: 'r' :: 'u' :: 'e' :: rest => some (.boolean true, rest)
    | 'f' :: 'a' :: 'l' :: 's' :: 'e' :: rest => some (.boolean false, rest)
    | '"' :: rest => (string? ('"' :: rest)).map fun (text, rest) => (.string text, rest)
    | '[' :: rest =>
      match depth with
      | 0 => none
      | depth + 1 =>
        match skipSpace rest with
        | ']' :: rest => some (.array [], rest)
        | rest => (items depth steps rest).map fun (items, rest) => (.array items, rest)
    | '{' :: rest =>
      match depth with
      | 0 => none
      | depth + 1 =>
        match skipSpace rest with
        | '}' :: rest => some (.object [], rest)
        | rest => (entries depth steps [] rest).map fun (entries, rest) => (.object entries, rest)
    | rest => (numeral? rest).map fun (number, rest) => (.number number, rest)

def items (depth : Nat) : Nat → List Char → Option (List Node × List Char)
  | 0, _ => none
  | steps + 1, text => do
    let (item, rest) ← node depth steps text
    match skipSpace rest with
    | ',' :: rest => (items depth steps rest).map fun (more, rest) => (item :: more, rest)
    | ']' :: rest => some ([item], rest)
    | _ => none

def entries (depth : Nat) : Nat → List (String × Node) → List Char →
    Option (List (String × Node) × List Char)
  | 0, _, _ => none
  | steps + 1, known, text => do
    let (key, rest) ← string? (skipSpace text)
    match skipSpace rest with
    | ':' :: rest =>
      let (value, rest) ← node depth steps rest
      let known := insertEntry key value known
      match skipSpace rest with
      | ',' :: rest => entries depth steps known rest
      | '}' :: rest => some (known, rest)
      | _ => none
    | _ => none

end

def read? (text : String) : Option Node :=
  match node depthLimit (2 * text.length + 2) text.toList with
  | some (node, rest) => if skipSpace rest = [] then some node else none
  | none => none

end StyleTokens.Json
