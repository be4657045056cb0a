/-! A YAML text while it is read: what is left of it, and where that stands. Columns are what
indentation is measured in; a line ends at a line feed, a carriage return or both, or at one of the
three separators outside ASCII. -/

set_option autoImplicit false

namespace StyleTokens.Yaml

def isGap (c : Char) : Bool := c == ' ' || c == '\t'

def isBreak (c : Char) : Bool :=
  c == '\n' || c == '\r' || c == '\u0085' || c == '\u2028' || c == '\u2029'

def isWordChar (c : Char) : Bool := c.isAlphanum || c == '_' || c == '-'

def endsWord : List Char → Bool
  | [] => true
  | c :: _ => isGap c || isBreak c

def endsLine : List Char → Bool
  | [] => true
  | c :: _ => isBreak c

def isAllowed (c : Char) : Bool :=
  let code := c.toNat
  code == 0x09 || code == 0x0A || code == 0x0D || (0x20 ≤ code && code ≤ 0x7E) || code == 0x85 ||
    (0xA0 ≤ code && code ≤ 0xD7FF) || (0xE000 ≤ code && code ≤ 0xFFFD) || 0x10000 ≤ code

structure Source where
  rest : List Char
  offset : Nat
  line : Nat
  column : Nat

namespace Source

def ofString (text : String) : Source := ⟨text.toList, 0, 0, 0⟩

def skip (source : Source) (count : Nat) : Source :=
  { source with
    rest := source.rest.drop count
    offset := (source.rest.take count).foldl (fun offset c => offset + c.utf8Size) source.offset
    column := source.column + count }

def skipWhile (source : Source) (accepted : Char → Bool) : Source :=
  source.skip (source.rest.takeWhile accepted).length

-- Reads a line break, if there is one, as the text it stands for: a line feed, or itself for the
-- separators of lines and paragraphs.
def takeBreak (source : Source) : List Char × Source :=
  let next (rest : List Char) (count : Nat) : Source :=
    ⟨rest, source.offset + count, source.line + 1, 0⟩
  match source.rest with
  | '\r' :: '\n' :: rest => (['\n'], next rest 2)
  | '\r' :: rest | '\n' :: rest => (['\n'], next rest 1)
  | '\u0085' :: rest => (['\n'], next rest 2)
  | '\u2028' :: rest => (['\u2028'], next rest 3)
  | '\u2029' :: rest => (['\u2029'], next rest 3)
  | _ => ([], source)

def skipBreak (source : Source) : Source := source.takeBreak.2

def skipComment (source : Source) : Source :=
  match source.rest with
  | '#' :: _ => source.skipWhile (!isBreak ·)
  | _ => source

def atDocumentMark (source : Source) : Bool :=
  source.column == 0 &&
    match source.rest with
    | '-' :: '-' :: '-' :: rest | '.' :: '.' :: '.' :: rest => endsWord rest
    | _ => false

end Source

-- The blanks and breaks between two words of a scalar. A single break stands for a space, and
-- several for all but the first.
structure Gap where
  blanks : List Char
  broken : Bool
  first : List Char
  more : List Char

namespace Gap

def empty : Gap := ⟨[], false, [], []⟩

def escaped : Gap := ⟨[], true, [], []⟩

def text (gap : Gap) : List Char :=
  if gap.broken then
    if gap.first = ['\n'] then if gap.more = [] then [' '] else gap.more
    else gap.first ++ gap.more
  else gap.blanks

/-- Reads a gap. No tab may stand left of `indent` after a break. Each step takes a character. -/
def read (indent : Int) : Nat → Gap → Source → Option (Gap × Source)
  | 0, _, _ => none
  | steps + 1, gap, source =>
    match source.rest with
    | [] => some (gap, source)
    | c :: _ =>
      if isGap c then
        if gap.broken then
          if c = '\t' ∧ (source.column : Int) < indent then none
          else read indent steps gap (source.skip 1)
        else read indent steps { gap with blanks := gap.blanks ++ [c] } (source.skip 1)
      else if isBreak c then
        let (newline, next) := source.takeBreak
        if gap.broken then read indent steps { gap with more := gap.more ++ newline } next
        else read indent steps ⟨[], true, newline, gap.more⟩ next
      else some (gap, source)

end Gap
end StyleTokens.Yaml
