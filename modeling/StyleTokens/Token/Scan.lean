import StyleTokens.Token
import StyleTokens.Token.Quoted

/-! Scanning a text for its tokens.

    token    := "$" name [ params ] [ blank ]
    name     := { letter | digit | "_" | "-" | "." | "$" }
    params   := "(" [ argument { "," argument } ] ")"
    argument := quoted | bare
    bare     := { any character except "," and ")" }

Letters and digits are those of ASCII. Blanks may stand before the opening parenthesis, after it,
and on either side of a quoted argument; a bare argument keeps the blanks that follow it. A token
that cannot be read is reported, and scanning goes on right after its name. -/

set_option autoImplicit false

namespace StyleTokens

open Text (isBlank length_dropWhile_le shorter_of_dropWhile shorter_of_takeWhile)

def isNameChar (c : Char) : Bool :=
  c.isAlphanum || c == '_' || c == '-' || c == '.' || c == '$'

def isBareChar (c : Char) : Bool := c != ',' && c != ')'

/-- A bare argument runs up to the next comma or closing parenthesis and is not empty. -/
def readBare (name : String) (text : List Char) : Except ScanError (List Char × List Char) :=
  match text.takeWhile isBareChar with
  | [] => .error (.missingArgument name)
  | c :: run => .ok (c :: run, text.dropWhile isBareChar)

def readArg (name : String) (text : List Char) : Except ScanError (List Char × List Char) :=
  match text.dropWhile isBlank with
  | c :: rest =>
    if c = '"' ∨ c = '\'' then
      match Quoted.read c name ⟨rest, 0⟩ with
      | (.ok content, after) => .ok (content.toList, after.rest)
      | (.error error, _) => .error error
    else readBare name (c :: rest)
  | [] => .error (.missingArgument name)

theorem readBare_shorter {name : String} {text arg rest : List Char}
    (found : readBare name text = .ok (arg, rest)) : rest.length < text.length := by
  unfold readBare at found
  split at found
  · cases found
  · next run =>
    cases found
    exact shorter_of_takeWhile (by simp [run])

theorem readArg_shorter {name : String} {text arg rest : List Char}
    (found : readArg name text = .ok (arg, rest)) : rest.length < text.length := by
  unfold readArg at found
  have shorter := length_dropWhile_le isBlank text
  split at found
  · next c tail more =>
    rw [more, List.length_cons] at shorter
    split at found
    · split at found
      · next closed =>
        cases found
        have inner := Quoted.read_le closed
        change _ ≤ tail.length at inner
        omega
      · cases found
    · have := readBare_shorter found
      simp only [List.length_cons] at this
      omega
  · cases found

def readArgs (name : String) (text : List Char) : Except ScanError (List (List Char) × List Char) :=
  match _ : readArg name text with
  | .error error => .error error
  | .ok (arg, rest) =>
    match _ : rest.dropWhile isBlank with
    | ',' :: more =>
      match readArgs name more with
      | .error error => .error error
      | .ok (args, after) => .ok (arg :: args, after)
    | after => .ok ([arg], after)
termination_by text.length
decreasing_by
  exact Nat.lt_trans (shorter_of_dropWhile ‹_›) (readArg_shorter ‹_›)

def readParams (name : String) (text : List Char) :
    Except ScanError (List (List Char) × List Char) :=
  match text.dropWhile isBlank with
  | '(' :: inside =>
    match inside.dropWhile isBlank with
    | ')' :: rest => .ok ([], rest)
    | more =>
      match readArgs name more with
      | .error error => .error error
      | .ok (args, ')' :: rest) => .ok (args, rest)
      | .ok (_, rest) => .error (.unexpected ⟨"')'", rest.head?⟩)
  | _ => .ok ([], text)

def readSuffix : List Char → Option Char × List Char
  | [] => (none, [])
  | c :: rest => if isBlank c then (some c, rest) else (none, c :: rest)

def isValidName (name : List Char) : Bool := !(name.splitOn '.').any List.isEmpty

/-- What stands after a name: the arguments, the suffix and the rest of the text. The name is
judged last, so a fault in the parameters is reported first. -/
def readTail (name : List Char) (text : List Char) :
    Except ScanError (List (List Char) × Option Char × List Char) :=
  match readParams (String.ofList name) text with
  | .error error => .error error
  | .ok (args, rest) =>
    if isValidName name then .ok (args, readSuffix rest)
    else .error (.invalidName (String.ofList name))

def readToken (offset : Nat) (text : List Char) : Except ScanFailure Token × List Char :=
  let name := text.takeWhile isNameChar
  let afterName := text.dropWhile isNameChar
  let token (rest : List Char) (suffix : Option Char) (args : List (List Char)) : Token :=
    let length := text.length - rest.length
    { start := offset
      stop := offset + 1 + length
      raw := String.ofList ('$' :: text.take length)
      suffix
      path := (name.splitOn '.').map String.ofList
      args := args.map String.ofList }
  match readTail name afterName with
  | .ok (args, suffix, rest) => (.ok (token rest suffix args), rest)
  | .error error => (.error ⟨token afterName none [], error⟩, afterName)

structure Scanner where
  offset : Nat
  rest : List Char
  deriving DecidableEq, Repr

namespace Scanner

def ofString (text : String) : Scanner := ⟨0, text.toList⟩

/-- The next token, or none when no `$` is left, and the scan after it. -/
def next (scanner : Scanner) : Option (Except ScanFailure Token) × Scanner :=
  let gap := (scanner.rest.takeWhile (· != '$')).length
  match scanner.rest.dropWhile (· != '$') with
  | [] => (none, ⟨scanner.offset + gap, []⟩)
  | _ :: text =>
    let (result, rest) := readToken (scanner.offset + gap) text
    (some result, ⟨scanner.offset + gap + 1 + (text.length - rest.length), rest⟩)

theorem readParams_le {name : String} {text rest : List Char} {args : List (List Char)}
    (found : readParams name text = .ok (args, rest)) : rest.length ≤ text.length := by
  have args_le : ∀ {text rest args}, readArgs name text = .ok (args, rest) →
      rest.length ≤ text.length := by
    intro text rest args found
    fun_induction readArgs name text generalizing rest args with
    | case1 => cases found
    | case2 => cases found
    | case3 text arg tail read more comma args' after inner ih =>
      cases found
      have := ih inner
      have := shorter_of_dropWhile comma
      have := readArg_shorter read
      omega
    | case4 text arg tail read =>
      cases found
      have := length_dropWhile_le isBlank tail
      have := readArg_shorter read
      omega
  unfold readParams at found
  have outer := length_dropWhile_le isBlank text
  split at found
  · next inside opened =>
    rw [opened, List.length_cons] at outer
    have inner := length_dropWhile_le isBlank inside
    split at found
    · next closed =>
      cases found
      rw [closed, List.length_cons] at inner
      omega
    · split at found
      · cases found
      · next read =>
        cases found
        have := args_le read
        simp only [List.length_cons] at this
        omega
      · cases found
  · cases found
    omega

theorem readSuffix_le (text : List Char) : (readSuffix text).2.length ≤ text.length := by
  cases text with
  | nil => simp [readSuffix]
  | cons c rest => by_cases blank : isBlank c <;> simp [readSuffix, blank]

theorem readToken_le (offset : Nat) (text : List Char) :
    (readToken offset text).2.length ≤ text.length := by
  have name := length_dropWhile_le isNameChar text
  unfold readToken readTail
  dsimp only
  split
  · next args suffix rest found =>
    split at found
    · cases found
    · next args' rest' params =>
      split at found
      · have := readSuffix_le rest'
        simp only [Except.ok.injEq, Prod.mk.injEq] at found
        obtain ⟨_, suffix⟩ := found
        rw [suffix] at this
        exact Nat.le_trans this (Nat.le_trans (readParams_le params) name)
      · cases found
  · exact name

theorem next_shorter {scanner scanner' : Scanner} {result : Except ScanFailure Token}
    (found : scanner.next = (some result, scanner')) :
    scanner'.rest.length < scanner.rest.length := by
  unfold next at found
  dsimp only at found
  split at found
  · cases found
  · next text more =>
    cases found
    exact Nat.lt_of_le_of_lt (readToken_le _ text) (shorter_of_dropWhile more)

def all (scanner : Scanner) : List (Except ScanFailure Token) :=
  match _ : scanner.next with
  | (none, _) => []
  | (some result, scanner) => result :: all scanner
termination_by scanner.rest.length
decreasing_by exact next_shorter ‹_›

end Scanner

def scan (text : String) : List (Except ScanFailure Token) := (Scanner.ofString text).all

end StyleTokens
