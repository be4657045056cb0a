import StyleTokens.Hcl.Expression
import StyleTokens.Hcl.Lexeme
import StyleTokens.Text.Blank

/-! Texts with parts to compute: strings in quotes, and lines between two marks. A part is an
interpolated expression or a directive, which has a text of its own inside. The reader of
expressions is a parameter, since these are expressions themselves. -/

set_option autoImplicit false

namespace StyleTokens.Hcl

inductive Part where
  | literal (text : List Char)
  | inside (text : List Char)
  | computed (text : List Char)

/-- The text of parts, where a mark that stands for itself is doubled. -/
def textOf (parts : List Part) : String :=
  String.ofList (parts.flatMap fun
    | .literal text | .inside text => doubleMarks text
    | .computed text => text)

def encodeParts (parts : List Part) : String :=
  String.join (parts.map fun
    | .literal text | .inside text => encode text
    | .computed text => String.ofList text)

def opensPart : List Char → Bool
  | '$' :: '\x7b' :: _ | '%' :: '\x7b' :: _ => true
  | _ => false

-- Characters up to a part to compute or to the end of the text. A doubled mark stands for itself,
-- and a backslash begins an escape where escapes are allowed.
def fragment (escapes : Bool) (ending : Read Unit) : Read (List Char) := do
  absent ending
  match ← rest with
  | [] => failure
  | '$' :: '$' :: '\x7b' :: _ => take 3 *> pure ['$', '\x7b']
  | '%' :: '%' :: '\x7b' :: _ => take 3 *> pure ['%', '\x7b']
  | c :: more =>
    if opensPart (c :: more) then failure
    take 1
    if escapes && c == '\\' then return [← escape] else return [c]

-- A literal ends at an escape without a meaning, of which the backslash and the letter are left
-- out.
def literal (escapes : Bool) (ending : Read Unit) : Read (List Char) := do
  let first ← fragment escapes ending
  let more ← many (fragment escapes ending)
  match ← rest with
  | '\\' :: letter :: _ => if escapes && letter.toNat < 0x80 then take 2
  | _ => pure ()
  return first ++ more.flatten

section

variable (expression : Read Expression)

-- A part to compute, after its opening and up to its brace, with a mark on either side that cuts
-- blanks.
def braced (opening : String) (inner : Read Unit) : Read Part := do
  let (_, text) ← withText do
    word opening
    discard (possibly (word "~"))
    gap *> inner *> gap
    discard (possibly (word "~"))
    word "\x7d"
  return .computed text

def interpolation : Read Part := braced "$\x7b" (discard expression)

def tag (inner : Read Unit) : Read Part := braced "%\x7b" inner

def binding : Read (List String) := do
  let first ← gap *> name
  let second ← possibly (gap *> word "," *> gap *> name)
  gap *> word "in" *> gap
  return first :: second.toList

def conditionDirective (nested : Read (List Part)) : Read (List Part) := do
  let opening ← tag (word "if" *> gap *> discard expression)
  let yes ← nested
  let no ← possibly do
    let opening ← tag (word "else")
    return opening :: (← nested)
  let closing ← tag (word "endif")
  return opening :: yes ++ no.getD [] ++ [closing]

def loopDirective (nested : Read (List Part)) : Read (List Part) := do
  let opening ← tag (word "for" *> binding *> discard expression)
  let text ← nested
  let closing ← tag (word "endfor")
  return opening :: text ++ [closing]

def directive (nested : Read (List Part)) : Read (List Part) :=
  conditionDirective expression nested <|> loopDirective expression nested

-- The text inside a directive, where escapes are not known. It goes up to the next part that does
-- not belong to it. `steps` bounds how deep directives are nested.
def nestedText : Nat → Read (List Part)
  | 0 => failure
  | steps + 1 =>
    List.flatten <$> many ((List.singleton <$> interpolation expression) <|>
      directive expression (nestedText steps) <|>
      (fun text => [.inside text]) <$> literal false failure)

def parts (escapes : Bool) (ending : Read Unit) : Read (List Part) := do
  let depth := (← rest).length
  List.flatten <$> many ((List.singleton <$> interpolation expression) <|>
    directive expression (nestedText expression depth) <|>
    (fun text => [.literal text]) <$> literal escapes ending)

def quoted : Read Expression := do
  let parts ← silently (word "\"" *> parts expression true (word "\"") <* word "\"")
  write ("\"" ++ encodeParts parts ++ "\"").toList
  match parts with
  | [] => return .string ""
  | [.literal text] => return .string (String.ofList text)
  | _ => return .template (textOf parts)

end

/-! ## Lines between marks -/

def linesOf (text : List Char) : List (List Char) :=
  let lines := text.splitOn '\n'
  lines.dropLast.map (fun line => if line.getLast? = some '\r' then line.dropLast else line) ++
    lines.getLast?.toList

def byteCount (text : List Char) : Nat := text.foldl (fun count c => count + c.utf8Size) 0

-- How many bytes of blanks all lines begin with, empty ones apart. A literal counts with all its
-- lines if nothing stands before it on the first of them, and does not count otherwise; a part to
-- compute at the beginning of a line has no blanks before it.
def indentation? : (started : Bool) → List Part → Option Nat
  | _, [] => none
  | started, .computed _ :: parts =>
    if started then indentation? true parts else some 0
  | started, .inside _ :: parts => indentation? started parts
  | started, .literal text :: parts =>
    let more := indentation? (text.getLast? != some '\n') parts
    if started then more
    else
      let lines := (linesOf text).filter (!·.isEmpty)
      (lines.map (fun line => byteCount (line.takeWhile Text.isBlank)) ++ more.toList).min?

def dropBytes : Nat → List Char → List Char
  | 0, text => text
  | _, [] => []
  | count + 1, c :: text => dropBytes (count + 1 - c.utf8Size) text
termination_by _ text => text.length

/-- Changes each line of a text, but not the first one if something stands before it. -/
def onLines (change : List Char → List Char) (started : Bool) (text : List Char) : List Char :=
  let lines := linesOf text
  ['\n'].intercalate (lines.take started.toNat ++ (lines.drop started.toNat).map change)

def onLiterals (change : List Char → List Char) : (started : Bool) → List Part → List Part
  | _, [] => []
  | started, .literal text :: parts =>
    .literal (onLines change started text) :: onLiterals change true parts
  | _, part :: parts => part :: onLiterals change true parts

def outdent (count : Nat) : List Part → List Part := onLiterals (dropBytes count) false

/-- The literals with so many blanks in front of their lines, empty ones apart. -/
def indent (count : Nat) : List Part → List Part :=
  onLiterals (fun line => if line.isEmpty then [] else List.replicate count ' ' ++ line) false

-- The text of lines between marks, or the empty one. The mark at the end may stand behind blanks,
-- and the line end before it belongs to the text. An ending that follows some text is preferred.
def heredocText (expression : Read Expression) (mark : String) : Read (List Part × List Char) :=
  let closing := discard (run isSpace) *> word mark
  (do
    let parts ← parts expression false (newline *> closing)
    let (_, last) ← withText newline
    let (_, closing) ← withText closing
    return (parts ++ [.literal last], closing)) <|> do
  let (_, closing) ← withText closing
  return ([], closing)

-- Lines between two marks; a hyphen before the first one takes their indentation away, and is left
-- out if they have none.
def heredoc (expression : Read Expression) : Read Expression := do
  let (mark, hyphen, parts, closing) ← silently do
    word "<<"
    let hyphen ← holds (word "-")
    let mark ← name
    newline
    let (parts, closing) ← heredocText expression mark
    return (mark, hyphen, parts, closing)
  let count := if hyphen then (indentation? false parts).getD 0 else 0
  let opening := (if count = 0 then "<<" else "<<-") ++ mark ++ "\n"
  let parts := if count = 0 then parts else outdent count parts
  let again := if count = 0 then parts else indent count parts
  write ((opening ++ textOf again).toList ++ closing)
  let lines := textOf parts
  let lineEnd := if lines.toList.getLast? = some '\n' then "" else "\n"
  return .lines lines (opening ++ lines ++ lineEnd ++ mark)

end StyleTokens.Hcl
