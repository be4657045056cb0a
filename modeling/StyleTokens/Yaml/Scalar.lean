import StyleTokens.Text.Hex
import StyleTokens.Yaml.Source

/-! The scalars of YAML: plain, in single or double quotes, and in blocks, literal or folded. -/

set_option autoImplicit false

namespace StyleTokens.Yaml

/-! ## Plain scalars -/

def isFlowMark (c : Char) : Bool := c == ',' || c == '[' || c == ']' || c == '{' || c == '}'

-- One word of a plain scalar: up to a blank or a break, or a colon before one. Inside brackets it
-- ends before their marks, and a colon right before one of them is an error.
def plainWord (flow : Bool) : List Char → Option (List Char)
  | [] => some []
  | c :: rest =>
    let next := rest.head?.getD ' '
    if isGap c || isBreak c then some []
    else if flow && c == ':' && (isFlowMark next || next == '?') then none
    else if (c == ':' && endsWord rest) || (flow && isFlowMark c) then some []
    else (plainWord flow rest).map (c :: ·)

-- The rest of a plain scalar after `text`, and the gap before it. Says also whether the scalar ends
-- in a gap with a break.
def plainFrom (flow : Bool) (indent : Int) :
    Nat → List Char → Gap → Source → Option (List Char × Bool × Source)
  | 0, _, _, _ => none
  | steps + 1, text, gap, source => do
    if source.atDocumentMark || source.rest.head? == some '#' then
      return (text, gap.broken, source)
    let word ← plainWord flow source.rest
    let (text, gap) := if word = [] then (text, gap) else (text ++ gap.text ++ word, .empty)
    let source := source.skip word.length
    if source.rest = [] || !endsWord source.rest then return (text, gap.broken, source)
    let (gap, source) ← gap.read indent (source.rest.length + 1) source
    if !flow && source.column < indent then return (text, gap.broken, source)
    plainFrom flow indent steps text gap source

def plain (flow : Bool) (indent : Int) (source : Source) : Option (String × Bool × Source) :=
  (plainFrom flow indent (source.rest.length + 1) [] .empty source).map
    fun (text, broken, source) => (String.ofList text, broken, source)

/-! ## Quoted scalars -/

def escape? : Char → Option Char
  | '0' => some '\x00'
  | 'a' => some '\x07'
  | 'b' => some '\x08'
  | 't' | '\t' => some '\t'
  | 'n' => some '\n'
  | 'v' => some '\x0b'
  | 'f' => some '\x0c'
  | 'r' => some '\r'
  | 'e' => some '\x1b'
  | ' ' => some ' '
  | '"' => some '"'
  | '/' => some '/'
  | '\\' => some '\\'
  | 'N' => some '\u0085'
  | '_' => some '\u00a0'
  | 'L' => some '\u2028'
  | 'P' => some '\u2029'
  | _ => none

def escapeDigits? : Char → Option Nat
  | 'x' => some 2
  | 'u' => some 4
  | 'U' => some 8
  | _ => none

-- One run of a quoted scalar, up to a gap or the closing quote. Says also whether it ends in a
-- backslash before a break, which joins two lines.
def quotedRun (quote : Char) : Nat → List Char → Source → Option (List Char × Bool × Source)
  | 0, _, _ => none
  | steps + 1, text, source =>
    match source.rest with
    | [] => some (text, false, source)
    | c :: rest =>
      if isGap c || isBreak c then some (text, false, source)
      else if c = quote then
        if quote = '\'' ∧ rest.head? = some '\'' then
          quotedRun quote steps (text ++ ['\'']) (source.skip 2)
        else some (text, false, source)
      else if quote = '"' ∧ c = '\\' then
        match rest with
        | [] => none
        | letter :: digits =>
          if isBreak letter then some (text, true, (source.skip 1).skipBreak)
          else match escapeDigits? letter with
            | some count =>
              if digits.length < count then none
              else do
                let c ← Text.charOfHex? (digits.take count)
                quotedRun quote steps (text ++ [c]) (source.skip (2 + count))
            | none => do quotedRun quote steps (text ++ [← escape? letter]) (source.skip 2)
      else quotedRun quote steps (text ++ [c]) (source.skip 1)

def quotedFrom (quote : Char) : Nat → List Char → Source → Option (List Char × Source)
  | 0, _, _ => none
  | steps + 1, text, source => do
    if source.atDocumentMark || source.rest = [] then none
    else
      let (run, joined, source) ← quotedRun quote (source.rest.length + 1) [] source
      let text := text ++ run
      if !joined && source.rest.head? == some quote then return (text, source.skip 1)
      let gap := if joined then Gap.escaped else .empty
      let (gap, source) ← gap.read (-1) (source.rest.length + 1) source
      quotedFrom quote steps (text ++ gap.text) source

def quoted (quote : Char) (source : Source) : Option (String × Source) :=
  (quotedFrom quote (source.rest.length + 1) [] (source.skip 1)).map
    fun (text, source) => (String.ofList text, source)

/-! ## Block scalars -/

inductive Chomping where
  | strip
  | clip
  | keep
  deriving DecidableEq

def chomping? : List Char → Option (Chomping × List Char)
  | '+' :: rest => some (.keep, rest)
  | '-' :: rest => some (.strip, rest)
  | _ => none

def increment? : List Char → Option (Option Nat × List Char)
  | c :: rest =>
    if c = '0' then none
    else if c.isDigit then some (some (c.toNat - '0'.toNat), rest)
    else some (none, c :: rest)
  | [] => some (none, [])

/-- The indicators after the mark of a block, in either order. -/
def blockHeader? (rest : List Char) : Option (Chomping × Option Nat × List Char) := do
  match chomping? rest with
  | some (chomping, rest) =>
    let (increment, rest) ← increment? rest
    return (chomping, increment, rest)
  | none =>
    let (increment, rest) ← increment? rest
    match increment, chomping? rest with
    | some _, some (chomping, rest) => return (chomping, increment, rest)
    | _, _ => return (.clip, increment, rest)

-- Passes over the indentation of a block and its empty lines, whose breaks it gives. While the
-- indentation is not known, also the greatest column reached counts.
def blockBreaks (indent : Option Nat) :
    Nat → List Char → Nat → Source → Option (List Char × Nat × Source)
  | 0, _, _, _ => none
  | steps + 1, breaks, greatest, source =>
    let limit := indent.getD (source.column + source.rest.length)
    let spaces := ((source.rest.take (limit - source.column)).takeWhile (· == ' ')).length
    let source := source.skip spaces
    let greatest := max greatest source.column
    let indented := match indent with
      | some indent => indent ≤ source.column
      | none => false
    match source.rest with
    | c :: _ =>
      if c == '\t' && !indented then none
      else if isBreak c then
        let (newline, next) := source.takeBreak
        blockBreaks indent steps (breaks ++ newline) greatest next
      else some (breaks, greatest, source)
    | [] => some (breaks, greatest, source)

-- The lines of a block. `newline` is the break after the line before, `breaks` those of the empty
-- lines after it; `blank` says that the line before begins with a blank.
def blockLines (literal : Bool) (chomping : Chomping) (indent : Nat) :
    Nat → List Char → List Char → List Char → Bool → Source → Option (List Char × Source)
  | 0, _, _, _, _, _ => none
  | steps + 1, text, newline, breaks, blank, source => do
    if source.column = indent ∧ source.rest ≠ [] then
      let startsBlank := match source.rest with
        | c :: _ => isGap c
        | [] => false
      let joint :=
        if !literal && newline == ['\n'] && !blank && !startsBlank then
          if breaks = [] then [' '] else []
        else newline
      let run := source.rest.takeWhile (!isBreak ·)
      let (newline, next) := (source.skip run.length).takeBreak
      let (more, _, next) ← blockBreaks (some indent) (next.rest.length + 1) [] 0 next
      blockLines literal chomping indent steps (text ++ joint ++ breaks ++ run) newline more
        startsBlank next
    else
      let tail := match chomping with
        | .strip => []
        | .clip => newline
        | .keep => newline ++ breaks
      return (text ++ tail, source)

/-- A block scalar in a collection that is indented by `parent`, which is -1 outside of all. -/
def block (literal : Bool) (parent : Int) (source : Source) : Option (String × Source) := do
  let source := source.skip 1
  let (chomping, increment, rest) ← blockHeader? source.rest
  let source := source.skip (source.rest.length - rest.length)
  let source := (source.skipWhile isGap).skipComment
  if !endsLine source.rest then failure
  let source := source.skipBreak
  let known := increment.map fun increment => (max parent 0).toNat + increment
  let (breaks, greatest, source) ← blockBreaks known (source.rest.length + 1) [] 0 source
  let indent := known.getD (max greatest (max (parent + 1) 1).toNat)
  let (text, source) ←
    blockLines literal chomping indent (source.rest.length + 1) [] [] breaks false source
  return (String.ofList text, source)

end StyleTokens.Yaml
