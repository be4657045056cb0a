import StyleTokens.Yaml.Scalar

/-! The tokens of a YAML text. Outside brackets, indentation opens and closes collections; a scalar
or a bracket that a colon follows on the same line turns out to have been a key, so the tokens that
open a mapping and mark a key are put in before it. -/

set_option autoImplicit false

namespace StyleTokens.Yaml

inductive Token where
  | version (major minor : Nat)
  | tagDirective (handle value : String)
  | documentStart
  | documentEnd
  | sequenceStart
  | mappingStart
  | blockEnd
  | flowSequenceStart
  | flowSequenceEnd
  | flowMappingStart
  | flowMappingEnd
  | item
  | separator
  | key
  | value
  | alias (name : String)
  | anchor (name : String)
  | tag (handle suffix : String)
  | scalar (text : String) (plain : Bool)
  deriving DecidableEq, Repr

-- A place where a key may have begun: before which token, and where. It is required where the
-- indentation allows for nothing but a key.
structure Candidate where
  position : Nat
  required : Bool
  offset : Nat
  line : Nat
  column : Nat

structure Lexer where
  source : Source
  indent : Int
  outer : List Int
  keyAllowed : Bool
  /-- The candidate outside brackets, which comes last, and those inside each level of them. -/
  candidates : List (Option Candidate)
  tokens : Array Token

namespace Lexer

def ofString (text : String) : Lexer := ⟨.ofString text, -1, [], true, [none], #[]⟩

def inFlow (lexer : Lexer) : Bool := 1 < lexer.candidates.length

def column (lexer : Lexer) : Int := lexer.source.column

def push (lexer : Lexer) (token : Token) : Lexer :=
  { lexer with tokens := lexer.tokens.push token }

def take (lexer : Lexer) (count : Nat) (token : Token) : Lexer :=
  { lexer with source := lexer.source.skip count }.push token

def allowKey (lexer : Lexer) (allowed : Bool) : Lexer := { lexer with keyAllowed := allowed }

/-! ## Candidates for keys -/

/-- Gives up the candidate of this level; one that is required must not be given up. -/
def dropCandidate (lexer : Lexer) : Option Lexer :=
  match lexer.candidates with
  | some candidate :: rest =>
    if candidate.required then none else some { lexer with candidates := none :: rest }
  | _ => some lexer

def addCandidate (lexer : Lexer) : Option Lexer :=
  if lexer.keyAllowed then do
    let lexer ← lexer.dropCandidate
    let source := lexer.source
    let required := !lexer.inFlow && lexer.indent == lexer.column
    let candidate : Candidate :=
      ⟨lexer.tokens.size, required, source.offset, source.line, source.column⟩
    return { lexer with candidates := some candidate :: lexer.candidates.drop 1 }
  else some lexer

def keyLimit : Nat := 1024

def expireCandidates (lexer : Lexer) : Option Lexer := do
  let candidates ← lexer.candidates.mapM fun candidate? =>
    match candidate? with
    | some candidate =>
      if candidate.line < lexer.source.line ∨
          candidate.offset + keyLimit < lexer.source.offset then
        if candidate.required then none else some none
      else some (some candidate)
    | none => some none
  return { lexer with candidates }

/-! ## Indentation -/

-- Opens a block collection at a column deeper than the current one, with its token put in at a
-- position.
def openBlock (lexer : Lexer) (column : Nat) (position : Nat) (token : Token) : Lexer :=
  if !lexer.inFlow && lexer.indent < column then
    { lexer with
      indent := column
      outer := lexer.indent :: lexer.outer
      tokens := lexer.tokens.insertIdxIfInBounds position token }
  else lexer

def closeBlocks (column : Int) : List Int → Int → Array Token → Int × List Int × Array Token
  | [], indent, tokens => (indent, [], tokens)
  | parent :: outer, indent, tokens =>
    if column < indent then closeBlocks column outer parent (tokens.push .blockEnd)
    else (indent, parent :: outer, tokens)

def unindent (lexer : Lexer) (column : Int) : Lexer :=
  if lexer.inFlow then lexer
  else
    let (indent, outer, tokens) := closeBlocks column lexer.outer lexer.indent lexer.tokens
    { lexer with indent, outer, tokens }

/-! ## Tokens with a text of their own -/

def takeAnchor (lexer : Lexer) (token : String → Token) : Option Lexer := do
  let name := (lexer.source.rest.drop 1).takeWhile isWordChar
  let rest := lexer.source.rest.drop (1 + name.length)
  let ends := endsWord rest || match rest with
    | c :: _ => "?:,]\x7d%@`".toList.contains c
    | [] => true
  if name = [] || !ends then failure
  return lexer.take (1 + name.length) (token (String.ofList name))

def isUriChar (verbatim : Bool) (c : Char) : Bool :=
  isWordChar c || ";/?:@&=+$.!~*'()%".toList.contains c || (verbatim && ",[]".toList.contains c)

def percentBytes : Nat → List Char → Option (List UInt8 × Nat)
  | steps + 1, '%' :: high :: low :: rest => do
    let byte := (← Text.hexValue? high) * 16 + (← Text.hexValue? low)
    let (bytes, count) ← percentBytes steps rest
    return (UInt8.ofNat byte :: bytes, count + 3)
  | _, '%' :: _ => none
  | _, _ => some ([], 0)

def uri? (verbatim : Bool) : Nat → List Char → Option (List Char × List Char)
  | 0, _ => none
  | _, [] => some ([], [])
  | steps + 1, c :: rest => do
    if !isUriChar verbatim c then return ([], c :: rest)
    if c = '%' then
      let (bytes, count) ← percentBytes (rest.length + 1) (c :: rest)
      let text ← String.fromUTF8? ⟨bytes.toArray⟩
      let (more, after) ← uri? verbatim steps ((c :: rest).drop count)
      return (text.toList ++ more, after)
    let (more, after) ← uri? verbatim steps rest
    return (c :: more, after)

/-- A tag: `!<uri>`, `!handle!suffix`, `!suffix` or `!` alone. -/
def takeTag (lexer : Lexer) : Option Lexer := do
  let text := lexer.source.rest
  let (handle, suffix, rest) ← match text with
    | '!' :: '<' :: rest => do
      let (uri, rest) ← uri? true (rest.length + 1) rest
      match rest with
      | '>' :: rest => if uri = [] then none else some ([], uri, rest)
      | _ => none
    | _ =>
      let word := (text.drop 1).takeWhile isWordChar
      match text.drop (1 + word.length) with
      | '!' :: rest => do
        let (suffix, rest) ← uri? false (rest.length + 1) rest
        if suffix = [] then none else some ('!' :: word ++ ['!'], suffix, rest)
      | rest => do
        let (more, rest) ← uri? false (rest.length + 1) rest
        let suffix := word ++ more
        if suffix = [] then some ([], ['!'], rest) else some (['!'], suffix, rest)
  if !(endsWord rest || (lexer.inFlow && rest.head? == some ',')) then failure
  return lexer.take (text.length - rest.length) (.tag (String.ofList handle) (String.ofList suffix))

def versionNumber? (text : List Char) : Option (Nat × List Char) :=
  match text.takeWhile Char.isDigit with
  | [] => none
  | digits =>
    if digits.length ≤ 9 then
      some (digits.foldl (fun n c => n * 10 + (c.toNat - '0'.toNat)) 0, text.dropWhile Char.isDigit)
    else none

def takeDirective (lexer : Lexer) : Option Lexer := do
  let text := lexer.source.rest.drop 1
  let name := String.ofList (text.takeWhile isWordChar)
  let arguments := (text.dropWhile isWordChar).dropWhile isGap
  let (token, rest) ← match name with
    | "YAML" => do
      let (major, rest) ← versionNumber? arguments
      match rest with
      | '.' :: rest => do
        let (minor, rest) ← versionNumber? rest
        some (Token.version major minor, rest)
      | _ => none
    | "TAG" =>
      match arguments with
      | '!' :: rest => do
        let word := rest.takeWhile isWordChar
        let (handle, rest) ← match rest.drop word.length with
          | '!' :: rest => some ('!' :: word ++ ['!'], rest)
          | rest => if word = [] then some (['!'], rest) else none
        if !(rest.head?.any isGap) then none
        else
          let rest := rest.dropWhile isGap
          let (uri, rest) ← uri? true (rest.length + 1) rest
          if uri = [] || !endsWord rest then none
          else some (Token.tagDirective (String.ofList handle) (String.ofList uri), rest)
      | _ => none
    | _ => none
  let source := (lexer.source.skip (lexer.source.rest.length - rest.length)).skipWhile isGap
  let source := source.skipComment
  if !endsLine source.rest then failure
  return { lexer with source := source.skipBreak }.push token

def pushScalar (lexer : Lexer) (text : String) (plain : Bool) (source : Source) : Lexer :=
  { lexer with source }.push (.scalar text plain)

/-! ## One token after the other -/

/-- Passes over blanks, comments and breaks. A tab is a blank only where no key may begin. -/
def skipBlanks : Nat → Lexer → Lexer
  | 0, lexer => lexer
  | steps + 1, lexer =>
    let source := lexer.source
    let source := if source.column = 0 ∧ source.rest.head? = some '\uFEFF' then source.skip 1
      else source
    let tabs := lexer.inFlow || !lexer.keyAllowed
    let source := source.skipWhile fun c => c == ' ' || (tabs && c == '\t')
    let source := source.skipComment
    if source.rest ≠ [] && endsLine source.rest then
      skipBlanks steps
        { lexer with source := source.skipBreak, keyAllowed := lexer.keyAllowed || !lexer.inFlow }
    else { lexer with source }

def openBracket (lexer : Lexer) (token : Token) : Option Lexer := do
  let lexer ← lexer.addCandidate
  return ({ lexer with candidates := none :: lexer.candidates }.allowKey true).take 1 token

def closeBracket (lexer : Lexer) (token : Token) : Option Lexer := do
  let lexer ← lexer.dropCandidate
  let candidates := if lexer.inFlow then lexer.candidates.drop 1 else lexer.candidates
  return ({ lexer with candidates }.allowKey false).take 1 token

def takeIndicator (lexer : Lexer) (start token : Token) (allowed : Bool) : Option Lexer := do
  if !lexer.inFlow && !lexer.keyAllowed then failure
  let lexer ← (lexer.openBlock lexer.source.column lexer.tokens.size start).dropCandidate
  return (lexer.allowKey allowed).take 1 token

/-- The colon before a value, which makes the candidate of its level a key. -/
def takeValue (lexer : Lexer) : Option Lexer :=
  match lexer.candidates with
  | some candidate :: rest =>
    let keyed := { lexer with
      tokens := lexer.tokens.insertIdxIfInBounds candidate.position .key
      candidates := none :: rest }
    let opened := keyed.openBlock candidate.column candidate.position .mappingStart
    some ((opened.allowKey false).take 1 .value)
  | _ =>
    if lexer.inFlow then some ((lexer.allowKey false).take 1 .value)
    else if !lexer.keyAllowed then none
    else
      let opened := lexer.openBlock lexer.source.column lexer.tokens.size .mappingStart
      some ((opened.allowKey true).take 1 .value)

def startsPlain (flow : Bool) (c : Char) (rest : List Char) : Bool :=
  !(endsWord [c] || "-?:,[]\x7b\x7d#&*!|>'\"%@`".toList.contains c) ||
    (c == '-' && !(rest.head?.any isGap)) ||
    (!flow && (c == '?' || c == ':') && !endsWord rest)

/-- Reads the next token and what belongs before it; the end of the text closes all blocks. -/
def next (lexer : Lexer) : Option Lexer := do
  let lexer ← (skipBlanks (lexer.source.rest.length + 1) lexer).expireCandidates
  let lexer := lexer.unindent lexer.column
  let flow := lexer.inFlow
  match lexer.source.rest with
  | [] => (lexer.unindent (-1)).dropCandidate
  | c :: rest =>
    let free := flow || endsWord rest
    if lexer.source.column = 0 ∧ c = '%' then
      (← (lexer.unindent (-1)).dropCandidate).allowKey false |>.takeDirective
    else if lexer.source.atDocumentMark then
      let lexer ← (lexer.unindent (-1)).dropCandidate
      return (lexer.allowKey false).take 3 (if c = '-' then .documentStart else .documentEnd)
    else match c with
      | '[' => lexer.openBracket .flowSequenceStart
      | '{' => lexer.openBracket .flowMappingStart
      | ']' => lexer.closeBracket .flowSequenceEnd
      | '}' => lexer.closeBracket .flowMappingEnd
      | ',' => return ((← lexer.dropCandidate).allowKey true).take 1 .separator
      | '*' => (← lexer.addCandidate).allowKey false |>.takeAnchor .alias
      | '&' => (← lexer.addCandidate).allowKey false |>.takeAnchor .anchor
      | '!' => (← lexer.addCandidate).allowKey false |>.takeTag
      | '\'' | '"' =>
        let lexer := (← lexer.addCandidate).allowKey false
        let (text, source) ← quoted c lexer.source
        return lexer.pushScalar text false source
      | _ =>
        if c = '-' ∧ endsWord rest then lexer.takeIndicator .sequenceStart .item true
        else if c = '?' ∧ free then lexer.takeIndicator .mappingStart .key (!flow)
        else if c = ':' ∧ free then lexer.takeValue
        else if (c = '|' ∨ c = '>') ∧ ¬flow then
          let lexer := (← lexer.dropCandidate).allowKey true
          let (text, source) ← block (c == '|') lexer.indent lexer.source
          return lexer.pushScalar text false source
        else if startsPlain flow c rest then
          let lexer := (← lexer.addCandidate).allowKey false
          let (text, broken, source) ← plain flow (lexer.indent + 1) lexer.source
          return (lexer.allowKey broken).pushScalar text true source
        else none

def all : Nat → Lexer → Option (List Token)
  | 0, _ => none
  | steps + 1, lexer => do
    let lexer ← lexer.next
    if lexer.source.rest = [] then
      return ((← lexer.next).tokens.toList)
    all steps lexer

end Lexer

def tokens? (text : String) : Option (List Token) :=
  if text.toList.all isAllowed then Lexer.all (text.length + 2) (.ofString text) else none

end StyleTokens.Yaml
