import StyleTokens.Decimal.Reading
import StyleTokens.Hcl.Node
import StyleTokens.Text.Hex
import StyleTokens.Text.Identifier

/-! The smallest parts of an HCL text: blanks and comments, names, numbers and the characters of a
string. A reader takes a part from the front of the text or fails, and keeps what it took, since
the text of a part to compute is part of its meaning. -/

set_option autoImplicit false

namespace StyleTokens.Hcl

structure Place where
  rest : List Char
  /-- The text that was taken, as it is to be written again; its last character is the first. -/
  taken : List Char
  multiline : Bool

def Place.start (text : String) : Place := ⟨text.toList, [], false⟩

abbrev Read := StateT Place Option

def rest : Read (List Char) := return (← get).rest

def take (count : Nat) : Read Unit := modify fun place =>
  { place with
    rest := place.rest.drop count
    taken := (place.rest.take count).reverse ++ place.taken }

def word (expected : String) : Read Unit := do
  if expected.toList.isPrefixOf (← rest) then take expected.length else failure

def run (accepted : Char → Bool) : Read (List Char) := do
  let characters := (← rest).takeWhile accepted
  take characters.length
  return characters

def run1 (accepted : Char → Bool) : Read (List Char) := do
  match ← run accepted with
  | [] => failure
  | c :: more => return c :: more

def manyFrom {α : Type} (read : Read α) : Nat → Read (List α)
  | 0 => pure []
  | steps + 1 => (do
    let item ← read
    return item :: (← manyFrom read steps)) <|> pure []

def many {α : Type} (read : Read α) : Read (List α) := do
  manyFrom read (← rest).length

def possibly {α : Type} (read : Read α) : Read (Option α) := some <$> read <|> pure none

def holds {α : Type} (read : Read α) : Read Bool := return (← possibly read).isSome

def ahead {α : Type} (read : Read α) : Read Unit := do
  let place ← get
  discard read
  set place

def absent {α : Type} (read : Read α) : Read Unit := do
  if ← holds (ahead read) then failure

def withText {α : Type} (read : Read α) : Read (α × List Char) := do
  let before := (← get).taken
  modify ({ · with taken := [] })
  let item ← read
  let written := (← get).taken
  modify ({ · with taken := written ++ before })
  return (item, written.reverse)

/-- Takes a part that is not to be written. -/
def silently {α : Type} (read : Read α) : Read α := do
  let before := (← get).taken
  let item ← read
  modify ({ · with taken := before })
  return item

def captured {α : Type} (read : Read α) : Read (α × List Char) := silently (withText read)

def write (text : List Char) : Read Unit :=
  modify fun place => { place with taken := text.reverse ++ place.taken }

def withMultiline {α : Type} (multiline : Bool) (read : Read α) : Read α := do
  let before := (← get).multiline
  modify ({ · with multiline })
  let item ← read
  modify ({ · with multiline := before })
  return item

/-! ## Blanks and comments -/

def commentLength? : List Char → Option Nat
  | '*' :: '/' :: _ => some 2
  | _ :: rest => (commentLength? rest).map (· + 1)
  | [] => none

def blockComment : Read Unit := do
  word "/*"
  match commentLength? (← rest) with
  | some length => take length
  | none => failure

def newline : Read Unit := word "\n" <|> word "\r\n"

/-- A carriage return cannot stand inside a comment. -/
def lineComment : Read Unit := do
  word "#" <|> word "//"
  discard (run fun c => c != '\n' && c != '\r')
  absent (word "\r" *> absent (word "\n"))

def isSpace (c : Char) : Bool := c == ' ' || c == '\t'

def isGap (c : Char) : Bool := isSpace c || c == '\n' || c == '\r'

def lineGap : Read Unit := discard (many (discard (run1 isSpace) <|> blockComment))

def gap : Read Unit := discard (many (discard (run1 isGap) <|> blockComment <|> lineComment))

def space : Read Unit := do
  if (← get).multiline then gap else lineGap

def atEnd : Read Unit := do
  if !(← rest).isEmpty then failure

def lineEnd : Read Unit := do
  lineGap
  discard (possibly lineComment)
  newline <|> atEnd

/-! ## Names and numbers -/

-- Outside ASCII a name begins with any character that may continue it, those from U+05C0 to U+05FF
-- apart.
def startsName (c : Char) : Bool :=
  c == '_' ||
    if c.toNat < 0x80 then Text.startsIdentifier c
    else Text.continuesIdentifier c && !(0x5C0 ≤ c.toNat && c.toNat ≤ 0x5FF)

def name : Read String := do
  match ← rest with
  | c :: _ =>
    if startsName c then
      return String.ofList (← run fun c => Text.continuesIdentifier c || c == '-')
    else failure
  | [] => failure

def digits : Read (List Char) := run1 Char.isDigit

-- Digits with a fraction or an exponent mean a double, which must be finite; others mean a whole
-- number of 64 bits.
def number : Read Number := do
  let (fractional, text) ← withText do
    discard digits
    let fraction ← holds (word "." *> digits)
    let exponent ← holds do
      word "e" <|> word "E"
      discard (possibly (word "+" <|> word "-"))
      digits
    return fraction || exponent
  if fractional then
    match Decimal.read? (String.ofList text) with
    | some value => if value.isFinite then return double value else failure
    | none => failure
  else
    let value := Decimal.digitsValue text 0
    if value < Nat.pow 2 64 then return .natural (UInt64.ofNat value) else failure

/-- A place in a list: a number of 64 bits without needless zeros. -/
def position : Read String := do
  let digits ← digits
  if (digits.length = 1 ∨ digits.head? ≠ some '0') ∧ Decimal.digitsValue digits 0 < Nat.pow 2 64 then
    return String.ofList digits
  else failure

/-! ## Characters of strings -/

def hexDigits (count : Nat) : Read Char := do
  let digits := (← rest).take count
  take count
  match Text.charOfHex? digits with
  | some c => if digits.length = count then return c else failure
  | none => failure

def escape : Read Char := do
  let letter :: _ ← rest | failure
  take 1
  match letter with
  | 'n' => return '\n'
  | 'r' => return '\r'
  | 't' => return '\t'
  | 'b' => return '\x08'
  | 'f' => return '\x0c'
  | '\\' | '"' | '/' => return letter
  | 'u' => hexDigits 4
  | 'U' => hexDigits 8
  | _ => failure

end StyleTokens.Hcl
