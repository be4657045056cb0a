import StyleTokens.Yaml.Compose

/-! Writing YAML documents: collections as blocks, indented by two blanks a level, and each scalar
in the plainest style that reads back as it. -/

set_option autoImplicit false

namespace StyleTokens.Yaml

/-! ## The page -/

-- What has been written, and where the writing stands: in which column, whether after a blank, and
-- whether after nothing but indentation and marks.
structure Page where
  text : String
  column : Nat
  blank : Bool
  fresh : Bool

namespace Page

def empty : Page := ⟨"", 0, true, true⟩

def put (page : Page) (text : String) : Page :=
  { page with text := page.text ++ text, column := page.column + text.length }

def newline (page : Page) : Page := { page with text := page.text ++ "\n", column := 0 }

def putBreak (page : Page) (c : Char) : Page :=
  { page with text := page.text ++ c.toString, column := 0 }

def mark (page : Page) (text : String) (apart blank fresh : Bool) : Page :=
  let page := if apart && !page.blank then page.put " " else page
  { page.put text with blank, fresh := page.fresh && fresh }

def indent (page : Page) (indent : Nat) : Page :=
  let page :=
    if !page.fresh || indent < page.column || (page.column == indent && !page.blank) then
      page.newline
    else page
  { page.put (String.ofList (List.replicate (indent - page.column) ' ')) with
    blank := true, fresh := true }

def close (page : Page) : Page := { page with blank := false, fresh := false }

end Page

/-! ## The style of a scalar -/

inductive Style where
  | plain
  | single
  | double
  | literal
  deriving DecidableEq

def isPrintable (c : Char) : Bool :=
  let code := c.toNat
  code == 0x0A || (0x20 ≤ code && code ≤ 0x7E) || (0xA0 ≤ code && code ≤ 0xD7FF) ||
    (0xE000 ≤ code && code ≤ 0xFFFD && code != 0xFEFF) || 0x10000 ≤ code

def isSpace (c : Char) : Bool := c == ' '

def isStartMark (c : Char) (rest : List Char) : Bool :=
  "#,[]\x7b\x7d&*!|>'\"%@`".toList.contains c || ("?:-".toList.contains c && endsWord rest)

def hasInnerMark : Char → List Char → Bool
  | _, [] => false
  | before, c :: rest =>
    (c == ':' && endsWord rest) || (c == '#' && endsWord [before]) || hasInnerMark c rest

def hasPair (first second : Char → Bool) : List Char → Bool
  | a :: b :: rest => (first a && second b) || hasPair first second (b :: rest)
  | _ => false

def isDocumentMark : List Char → Bool
  | '-' :: '-' :: '-' :: _ | '.' :: '.' :: '.' :: _ => true
  | _ => false

def allowsPlain (text : List Char) : Bool :=
  match text with
  | [] => true
  | c :: rest =>
    !(isStartMark c rest || hasInnerMark c rest || isDocumentMark text || text.any isBreak ||
      isSpace c || text.getLast? == some ' ' || !text.all isPrintable)

/-- Whether single quotes keep a text: no blank stands at a break, and all can be printed. -/
def allowsSingle (text : List Char) : Bool :=
  !(hasPair isBreak isSpace text || hasPair isSpace isBreak text || !text.all isPrintable)

def allowsLiteral (text : List Char) : Bool :=
  text ≠ [] && !(text.getLast? == some ' ' || hasPair isSpace isBreak text ||
    !text.all isPrintable)

-- The style a string asks for: literal for several lines, and quotes where it would be read as
-- something else.
def preferredStyle (text : String) : Style :=
  if text.toList.contains '\n' then .literal
  else match plainNode? text with
    | some (.string _) => if hasLeadingZero text.toList then .single else .plain
    | _ => .single

/-- The style in which a text is written. A key is written on one line. -/
def styleOf (preferred : Style) (key : Bool) (text : List Char) : Style :=
  let style := if key && text.any isBreak then .double else preferred
  let style :=
    if style = .plain && (!allowsPlain text || (text = [] && key)) then .single else style
  let style := if style = .single && !allowsSingle text then .double else style
  if style = .literal && (key || !allowsLiteral text) then .double else style

/-! ## Scalars -/

def hex (width code : Nat) : String :=
  String.ofList (((Nat.toDigits 16 (Nat.pow 16 width + code)).drop 1).map Char.toUpper)

def escape (c : Char) : String :=
  match c with
  | '\x00' => "\\0"
  | '\x07' => "\\a"
  | '\x08' => "\\b"
  | '\t' => "\\t"
  | '\n' => "\\n"
  | '\x0b' => "\\v"
  | '\x0c' => "\\f"
  | '\r' => "\\r"
  | '\x1b' => "\\e"
  | '"' => "\\\""
  | '\\' => "\\\\"
  | '\u0085' => "\\N"
  | '\u2028' => "\\L"
  | '\u2029' => "\\P"
  | _ =>
    if isPrintable c then c.toString
    else if c.toNat ≤ 0xFF then "\\x" ++ hex 2 c.toNat
    else "\\u" ++ hex 4 c.toNat

/-- The inside of single quotes. A line feed is doubled, since a single one reads as a space. -/
def putSingle (indent : Nat) : Bool → List Char → Page → Page
  | broken, [], page => if broken then page.indent indent else page
  | broken, c :: rest, page =>
    if isBreak c then
      let page := if !broken && c == '\n' then page.newline else page
      putSingle indent true rest { page.putBreak c with fresh := true }
    else if isSpace c then putSingle indent broken rest (page.put " ")
    else
      let page := if broken then page.indent indent else page
      let page := page.put (if c = '\'' then "''" else c.toString)
      putSingle indent false rest { page with fresh := false }

def putLines (indent : Nat) : Bool → List Char → Page → Page
  | _, [], page => page
  | broken, c :: rest, page =>
    if isBreak c then putLines indent true rest { page.putBreak c with fresh := true }
    else
      let page := if broken then page.indent indent else page
      putLines indent false rest { page.put c.toString with fresh := false }

-- What the head of a literal says of its ends: that the indentation cannot be seen from the first
-- line, and which breaks at the end belong to it.
def literalHints (text : List Char) : String :=
  let indentation := match text with
    | c :: _ => if isSpace c || isBreak c then "2" else ""
    | [] => ""
  let chomping := match text.reverse with
    | [] => "-"
    | [c] => if isBreak c then "+" else "-"
    | c :: before :: _ => if !isBreak c then "-" else if isBreak before then "+" else ""
  indentation ++ chomping

def putScalar (indent : Nat) (style : Style) (text : List Char) (page : Page) : Page :=
  match style with
  | .plain =>
    let page := if !page.blank && text ≠ [] then page.put " " else page
    (page.put (String.ofList text)).close
  | .single => ((putSingle indent false text (page.mark "'" true false false)).mark "'" false false
      false).close
  | .double =>
    (((page.mark "\"" true false false).put (String.join (text.map escape))).mark "\"" false false
      false).close
  | .literal =>
    let page := (page.mark "|" true false false).put (literalHints text)
    putLines indent true text { page.newline with blank := true, fresh := true }

/-! ## Nodes -/

def isTagChar (c : Char) : Bool := Lexer.isUriChar true c && c != '%' && c != '!'

def tagContent (text : String) : String :=
  String.join (text.toList.map fun c =>
    if isTagChar c then c.toString
    else String.join (c.toString.toUTF8.toList.map fun byte => "%" ++ hex 2 byte.toNat))

/-- A tag is written behind its exclamation mark, and in angle brackets if it is nothing else. -/
def tagText (name : String) : String :=
  if name = "!" then "!<" ++ tagContent name ++ ">" else "!" ++ tagContent name

def tagLength (name : String) : Nat := if name = "!" then 1 else 1 + name.utf8ByteSize

def Page.putTag (page : Page) (name : String) : Page :=
  let page := if page.blank then page else page.put " "
  (page.put (tagText name)).close

def scalarOf? : Node → Option (String × Style)
  | .null => some ("null", .plain)
  | .boolean value => some (if value then "true" else "false", .plain)
  | .number value => some (value.text numberLayout, .plain)
  | .string value => some (value, preferredStyle value)
  | .sequence _ | .mapping _ => none
  | .tagged _ node => scalarOf? node

def keyLength : Nat := 128

/-- How many bytes a node takes on one line, if it fits on one. -/
def flatLength? : Node → Option Nat
  | .sequence [] | .mapping [] => some 0
  | .sequence _ | .mapping _ => none
  | .tagged tag node => (flatLength? node).map (· + tagLength tag)
  | node => (scalarOf? node).bind fun (text, _) =>
    if text.toList.any isBreak then none else some text.utf8ByteSize

def isSimpleKey (node : Node) : Bool :=
  match flatLength? node with
  | some length => length ≤ keyLength
  | none => false

def deeper : Option Nat → Nat
  | none => 0
  | some indent => indent + 2

inductive Place where
  | item
  | key
  | value
  deriving DecidableEq

mutual

-- Writes a node in a collection with the given indentation. A sequence under a key is no deeper
-- than its key.
def writeNode (indent : Option Nat) (place : Place) : Node → Page → Page
  | .sequence [], page => (page.mark "[" true true false).mark "]" false false false
  | .mapping [], page => (page.mark "\x7b" true true false).mark "\x7d" false false false
  | .sequence items, page =>
    let flat := place ≠ .item && !page.fresh
    let indent := if flat then indent.getD 0 else deeper indent
    writeItems indent items page
  | .mapping entries, page => writeEntries (deeper indent) entries page
  | .tagged tag node, page => writeNode indent place node (page.putTag tag)
  | .null, page => putScalar (indent.getD 0 + 2) .plain "null".toList page
  | .boolean value, page =>
    putScalar (indent.getD 0 + 2) .plain (if value then "true" else "false").toList page
  | .number value, page =>
    putScalar (indent.getD 0 + 2) .plain (value.text numberLayout).toList page
  | .string value, page =>
    let style := styleOf (preferredStyle value) (place = .key) value.toList
    putScalar (indent.getD 0 + 2) style value.toList page

def writeItems (indent : Nat) : List Node → Page → Page
  | [], page => page
  | item :: items, page =>
    let page := (page.indent indent).mark "-" true false true
    writeItems indent items (writeNode (some indent) .item item page)

def writeEntries (indent : Nat) : List (Node × Node) → Page → Page
  | [], page => page
  | (key, value) :: entries, page =>
    let page := page.indent indent
    let page :=
      if isSimpleKey key then
        (writeNode (some indent) .key key page).mark ":" false false false
      else
        let page := writeNode (some indent) .value key (page.mark "?" true false true)
        (page.indent indent).mark ":" true false true
    writeEntries indent entries (writeNode (some indent) .value value page)

end

def write (node : Node) : String := ((writeNode none .item node .empty).indent 0).text

end StyleTokens.Yaml
