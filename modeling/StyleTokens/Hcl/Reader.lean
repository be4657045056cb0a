import StyleTokens.Hcl.Template

/-! Reading the expressions of HCL. Operators need no order of precedence, because nothing is
computed: their operands keep the order in which they are written. An operator stands on the line
of its first operand, unless the expression is in parentheses or has some before the operator. -/

set_option autoImplicit false

namespace StyleTokens.Hcl

section

-- The reader of nested expressions.
variable (expression : Read Expression)

def inner : Read Expression := withMultiline false expression

def parenthesis : Read Expression := do
  word "("
  modify ({ · with multiline := true })
  let inner ← gap *> withMultiline true expression <* gap
  word ")"
  return .parenthesis inner

def listed {α : Type} (part : Read α) : Read (List α × Bool) := do
  match ← possibly part with
  | none => return ([], false)
  | some first =>
    let more ← many (gap *> word "," *> gap *> part)
    let comma ← holds (gap *> word ",")
    return (first :: more, comma)

/-! ## Loops -/

/-- Whether the brackets hold a loop: its word is followed by a blank or a comment on its line. -/
def loopAhead : Read Bool := holds (ahead do
  gap *> word "for"
  match ← rest with
  | c :: _ => if !(isSpace c || c == '#' || c == '/') then failure
  | [] => failure)

def filtered : Read (List Expression) := do
  match ← possibly (gap *> word "if" *> gap *> inner expression) with
  | some condition => return [.symbol " if ", condition]
  | none => return []

def loopHead : Read (List Expression) := do
  gap *> word "for"
  let names ← binding
  let collection ← inner expression
  gap *> word ":" *> gap
  let head := "for " ++ String.intercalate ", " names ++ " in "
  return [.symbol head, collection, .symbol " : "]

def listLoop : Read Expression := do
  let head ← loopHead expression
  let value ← inner expression
  let condition ← filtered expression
  gap *> word "]"
  return .computation (.symbol "[" :: head ++ [value] ++ condition ++ [.symbol "]"])

-- A loop that makes an object, after its brace. Dots group the values of a key, and only a
-- condition may stand between them and the closing brace.
def objectLoop : Read Expression := do
  let head ← loopHead expression
  let key ← inner expression
  gap *> word "=>" *> gap
  let value ← inner expression
  let dots := if ← holds (gap *> word "...") then [.symbol "..."] else []
  let condition ← filtered expression
  if dots.isEmpty || !condition.isEmpty then gap
  word "\x7d"
  return .computation
    (.symbol "\x7b" :: head ++ [key, .symbol " => ", value] ++ dots ++ condition ++
      [.symbol "\x7d"])

/-! ## Collections -/

def array : Read Expression := do
  word "["
  if ← loopAhead then listLoop expression
  else
    let (items, _) ← gap *> listed (inner expression)
    gap *> word "]"
    return .array items

structure Entry where
  key : Expression
  value : Expression
  /-- How it is written, from the end of the entry before. A line end after it has no carriage
  return. -/
  written : List Char
  ended : Bool

def entry : Read Entry := do
  let ((key, value, ended), written) ← withText do
    let key ← gap *> inner expression
    lineGap *> (word "=" <|> word ":") *> lineGap
    let value ← inner expression
    lineGap
    let ended ← holds (word "," <|> do
      discard (possibly lineComment)
      silently newline
      write ['\n'])
    return (key, value, ended)
  return ⟨key, value, written, ended⟩

def entries : Nat → Read (List Entry)
  | 0 => pure []
  | steps + 1 => do
    match ← possibly (entry expression) with
    | none => return []
    | some entry => return entry :: (← if entry.ended then entries steps else pure [])

/-- Adds an entry, which takes the place of one with the same key. -/
def addEntry (known : List (String × Entry)) (entry : Entry) : List (String × Entry) :=
  let text := entry.key.text
  if known.any (·.1 == text) then known.map fun old => if old.1 == text then (text, entry) else old
  else known ++ [(text, entry)]

def object : Read Expression := do
  word "\x7b"
  if ← loopAhead then objectLoop expression
  else
    let read ← silently (entries expression (← rest).length)
    let kept := (read.foldl addEntry []).map Prod.snd
    write (kept.flatMap Entry.written)
    gap *> word "\x7d"
    return .object (kept.map fun entry => (entry.key, entry.value))

/-! ## Operands -/

def arguments : Read (List Expression) := do
  word "(" *> gap
  let (args, comma) ← listed (inner expression)
  let spread ← holds (gap *> word "...")
  if spread && (comma || args.isEmpty) then failure
  gap *> word ")"
  let dots := if spread then [.symbol "..."] else []
  return [.symbol "("] ++ args.intersperse (.symbol ", ") ++ dots ++ [.symbol ")"]

def named : Read Expression := do
  let name ← name
  match ← possibly (gap *> arguments expression) with
  | some args => return .computation (.symbol name :: args)
  | none =>
    match name with
    | "null" => return .null
    | "true" => return .boolean true
    | "false" => return .boolean false
    | _ => return .variable name

def primary : Read Expression := do
  match ← rest with
  | '"' :: _ => quoted (inner expression)
  | '<' :: _ => heredoc (inner expression)
  | '(' :: _ => parenthesis expression
  | '[' :: _ => array expression
  | '\x7b' :: _ => object expression
  | c :: _ => if c.isDigit then .number <$> number else named expression
  | [] => failure

def accessor : Read (List Expression) := do
  if ← holds (word ".") then
    gap
    let step ← (word "*" *> pure "*") <|> name <|> position
    return [.symbol ("." ++ step)]
  else
    word "[" *> gap
    let index ← (word "*" *> pure (.symbol "*")) <|> inner expression
    gap *> word "]"
    return [.symbol "[", index, .symbol "]"]

/-- Steps into a value. Blanks between them are not kept, and no dot follows the last one. -/
def accessors : Read (List Expression) := do
  match ← possibly (space *> accessor expression) with
  | none => return []
  | some first =>
    let more ← many (silently space *> accessor expression)
    absent (space *> word ".")
    return first ++ more.flatten

def negativeNumber : Read Expression := do
  word "-" *> space
  return .number (opposite (← number))

def sign : Read String := do
  absent negativeNumber
  (word "-" *> pure "-") <|> (word "!" *> pure "!")

/-- The signs before an operand. Only the last one counts, and of the blanks those after it. -/
def signs : Read (Option (String × List Char)) := do
  let read ← silently (many do
    let sign ← sign
    return (sign, (← withText space).2))
  return read.getLast?

end

def operators : List String :=
  ["==", "!=", "<=", ">=", "<", ">", "&&", "||", "+", "-", "*", "/", "%"]

def operator : Read String := do
  absent (word "//" <|> word "/*")
  operators.foldr (fun operator others => (word operator *> pure operator) <|> others) failure

section

variable (expression : Read Expression)

def operation : Read (List Expression) := do
  let operator ← space *> operator
  return [.symbol (" " ++ operator ++ " "), ← space *> expression]

-- The branches of a choice. A parenthesis in the first one does not let the second one stand on
-- another line.
def choice : Read (List Expression) := do
  space *> word "?" *> space
  let yes ← withMultiline (← get).multiline expression
  space *> word ":" *> space
  return [.symbol " ? ", yes, .symbol " : ", ← expression]

end

-- An expression of which `steps` bounds how deep it is nested. What stands between its sign and its
-- operand is written before the sign, and only if there is more than the two.
def expression : Nat → Read Expression
  | 0 => failure
  | steps + 1 => do
    let nested := expression steps
    let sign ← signs
    let symbols := (sign.map Prod.fst).toList
    let ((first, more), text) ← captured do
      write (String.join symbols).toList
      let operand ← negativeNumber <|> primary nested
      let path ← accessors nested
      let others ← operation nested <|> choice nested <|> pure []
      return (symbols.map .symbol ++ [operand], path ++ others)
    let blanks := (sign.map Prod.snd).getD []
    write ((if more.isEmpty then [] else blanks) ++ text)
    match first ++ more with
    | [operand] => return operand
    | parts => return .computation parts

end StyleTokens.Hcl
