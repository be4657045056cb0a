import StyleTokens.Proofs.Token.Step

/-! Why a token cannot be read. Parameters that are written as the grammar has it leave nothing to
object to but the name. All others have a first defect, from left to right, and the error is the one
for that defect: the arguments before it are well formed, each with its comma. -/

set_option autoImplicit false

namespace StyleTokens

open Text (isBlank Stops)
open Quoted (Piece writtenBody)

variable {name : String} {text rest position arg : List Char} {args : List (List Char)}
  {passed : List Item} {error : ScanError}

/-! ### Defects -/

/-- A text that starts with parameters of the grammar. -/
def StartsWithParams (text : List Char) : Prop :=
  ∃ params rest, Params.Fits rest params ∧ text = params.written ++ rest

def writtenBefore (passed : List Item) : List Char := passed.flatMap fun item => item.written ++ [',']

/-- An argument is wanted at a position of the text after a name: behind the opening parenthesis, and
behind the arguments that were passed with a comma after each of them. A parenthesis that is closed
at once wants none. -/
structure WantsArgument (text before : List Char) (passed : List Item) (position : List Char) :
    Prop where
  whole : text = before ++ '(' :: (writtenBefore passed ++ position)
  blank : ∀ c ∈ before, isBlank c
  fits : ∀ item ∈ passed, item.Fits
  wanted : passed = [] → (position.dropWhile isBlank).head? ≠ some ')'

/-- No mark in the text ends an argument that was opened by this mark: each has a backslash before it
that is not escaped itself. -/
def Unclosed (mark : Char) (text : List Char) : Prop :=
  ∀ body rest, (∀ piece ∈ body, Piece.Fits mark piece) → text ≠ writtenBody body ++ mark :: rest

/-- What can be wrong where an argument is wanted, and the error for it. -/
inductive Defect (name : String) : List Char → ScanError → Prop where
  | unterminated {before body : List Char} {mark : Char} (blank : ∀ c ∈ before, isBlank c)
      (quote : IsQuote mark) (unclosed : Unclosed mark body) :
      Defect name (before ++ mark :: body) (.unterminatedString name)
  | missing {before rest : List Char} (blank : ∀ c ∈ before, isBlank c)
      (ended : ∀ c ∈ rest.head?, EndsItem c) :
      Defect name (before ++ rest) (.missingArgument name)
  | unexpected {item : Item} {rest : List Char} (fits : item.Fits) (reaches : item.Reaches rest)
      (other : ∀ c ∈ rest.head?, ¬EndsItem c) :
      Defect name (item.written ++ rest) (.unexpected ⟨"')'", rest.head?⟩)

/-- The error for the first defect of the parameters after a name. -/
def FirstDefect (name : String) (text : List Char) (error : ScanError) : Prop :=
  ∃ before passed position, WantsArgument text before passed position ∧ Defect name position error

/-- Nothing stands behind a bare argument but a character that ends it. -/
theorem Item.Reaches.eq_nil {before run : List Char} (reaches : (Item.bare before run).Reaches rest)
    (other : ∀ c ∈ rest.head?, ¬EndsItem c) : rest = [] := by
  cases rest with
  | nil => rfl
  | cons c rest => exact absurd (isBareChar_eq_false.1 (reaches c rfl)) (other c rfl)

theorem Item.Reaches.stops {item : Item} (reaches : item.Reaches rest) : Stops isBlank rest := by
  cases item with
  | quoted => exact reaches
  | bare => exact stops_isBlank reaches

/-! ### A defect is found -/

theorem readArg_of_missing {before : List Char} (blank : ∀ c ∈ before, isBlank c)
    (ended : ∀ c ∈ rest.head?, EndsItem c) :
    readArg name (before ++ rest) = .error (.missingArgument name) := by
  have stops : Stops isBlank rest := fun c found => isBlank_of_endsItem (ended c found)
  have opened := Text.dropWhile_append_of_stops blank stops
  cases rest with
  | nil => exact readArg_of_end opened
  | cons c rest =>
    have ends := ended c rfl
    rw [readArg_of_bare opened fun quote => not_endsItem_of_isQuote quote ends, readBare,
      List.takeWhile_cons_of_neg (by simpa using isBareChar_eq_false.2 ends)]

/-- What a defect does to the reader of the argument, and of the parenthesis after it. -/
theorem Defect.readArgs (defect : Defect name position error) :
    readArgs name position = .error error ∨
      ∃ args rest, readArgs name position = .ok (args, rest) ∧ rest.head? ≠ some ')' ∧
        error = .unexpected ⟨"')'", rest.head?⟩ := by
  cases defect with
  | @unterminated before body mark blank quote unclosed =>
    have opened := Text.dropWhile_append_of_stops blank
      (Text.stops_cons.2 (isBlank_of_isQuote quote) : Stops isBlank (mark :: body))
    refine .inl (readArgs_of_error ?_)
    rw [readArg_of_quote opened quote,
      (Quoted.unescape_eq_none_iff (ne_backslash_of_isQuote quote)).2 unclosed]
  | missing blank ended => exact .inl (readArgs_of_error (readArg_of_missing blank ended))
  | @unexpected item rest fits reaches other =>
    obtain ⟨tail, read, ended⟩ := readArg_reaching name fits reaches
    have noComma : (tail.dropWhile isBlank).head? ≠ some ',' :=
      fun comma => other ',' (by rw [← ended, comma]; rfl) (.inl rfl)
    refine .inr ⟨[item.arg], rest, ?_, ?_, rfl⟩
    · rw [readArgs_of_last read noComma, ended]
    · exact fun closed => other ')' (by rw [closed]; rfl) (.inr rfl)

theorem readArgs_passed (fits : ∀ item ∈ passed, item.Fits) (position : List Char) :
    readArgs name (writtenBefore passed ++ position) = match readArgs name position with
      | .error error => .error error
      | .ok (args, after) => .ok (passed.map Item.arg ++ args, after) := by
  induction passed with
  | nil =>
    rw [writtenBefore, List.flatMap_nil, List.nil_append]
    split <;> assumption
  | cons item passed ih =>
    obtain ⟨fit, fits⟩ := List.forall_mem_cons.1 fits
    obtain ⟨tail, read, ended⟩ :=
      readArg_written name fit (.inl rfl) (writtenBefore passed ++ position)
    have whole : writtenBefore (item :: passed) ++ position =
        item.written ++ ',' :: (writtenBefore passed ++ position) := by
      simp [writtenBefore]
    rw [whole, readArgs_of_comma read ended, ih fits]
    cases readArgs name position <;> rfl

namespace WantsArgument

variable {before : List Char}

theorem opened (wants : WantsArgument text before passed position) :
    text.dropWhile isBlank = '(' :: (writtenBefore passed ++ position) := by
  rw [wants.whole]
  exact Text.dropWhile_append_of_stops wants.blank (stops_opening _)

theorem filled (wants : WantsArgument text before passed position) :
    ((writtenBefore passed ++ position).dropWhile isBlank).head? ≠ some ')' := by
  cases passed with
  | nil => exact wants.wanted rfl
  | cons item passed =>
    have fit := wants.fits item List.mem_cons_self
    obtain ⟨c, more, start, -, notEnd⟩ := fit.core_start
    have whole : writtenBefore (item :: passed) ++ position =
        item.written ++ ',' :: (writtenBefore passed ++ position) := by
      simp [writtenBefore]
    rw [whole, fit.dropWhile_written, start]
    rintro ⟨⟩
    exact notEnd (.inr rfl)

theorem readParams (wants : WantsArgument text before passed position)
    (defect : Defect name position error) : readParams name text = .error error := by
  rw [readParams_of_listed wants.opened wants.filled, readArgs_passed wants.fits]
  rcases defect.readArgs with failed | ⟨args, rest, read, notClosed, rfl⟩
  · rw [failed]
  · rw [read]
    split
    · next same => cases same
    · next same => cases same; exact absurd rfl notClosed
    · next same => cases same; rfl

end WantsArgument

/-! ### An error comes from a defect -/

theorem defect_of_readArg (failed : readArg name position = .error error) :
    Defect name position error := by
  obtain ⟨before, blank, whole⟩ := Text.exists_run isBlank position
  cases opened : position.dropWhile isBlank with
  | nil =>
    rw [readArg_of_end opened] at failed
    cases failed
    rw [whole, opened]
    exact .missing blank (by simp)
  | cons c rest =>
    rw [opened] at whole
    by_cases quote : IsQuote c
    · rw [readArg_of_quote opened quote] at failed
      split at failed
      · cases failed
      · next unclosed =>
        cases failed
        rw [whole]
        exact .unterminated blank quote
          ((Quoted.unescape_eq_none_iff (ne_backslash_of_isQuote quote)).1 unclosed)
    · rw [readArg_of_bare opened quote, readBare] at failed
      split at failed
      · next none =>
        cases failed
        rw [whole]
        refine .missing blank ?_
        rintro _ ⟨⟩
        by_contra notEnd
        rw [List.takeWhile_cons_of_pos (isBareChar_eq_true.2 notEnd)] at none
        cases none
      · cases failed

/-- Reading arguments comes to a last position, with a comma behind each argument before it. There no
argument can be read, or none follows the one that is read. -/
theorem exists_last (name : String) (inside : List Char) :
    ∃ passed position, (∀ item ∈ passed, Item.Fits item) ∧
      inside = writtenBefore passed ++ position ∧
      ((∃ error, readArg name position = .error error) ∨
        ∃ item rest, Item.Fits item ∧ item.Reaches rest ∧ position = item.written ++ rest ∧
          rest.head? ≠ some ',') := by
  have passing : ∀ {text arg tail more}, readArg name text = .ok (arg, tail) →
      tail.dropWhile isBlank = ',' :: more → ∃ item : Item, item.Fits ∧
        ∀ passed position, more = writtenBefore passed ++ position →
          text = writtenBefore (item :: passed) ++ position := by
    intro text arg tail more read comma
    obtain ⟨item, fit, -, whole, -⟩ := written_of_readArg read
    refine ⟨item, fit, ?_⟩
    rintro passed position rfl
    rw [whole, comma]
    simp [writtenBefore]
  fun_induction readArgs name inside with
  | case1 text error failed => exact ⟨[], text, by simp, rfl, .inl ⟨error, failed⟩⟩
  | case2 text arg tail read more comma error failed ih
  | case3 text arg tail read more comma args after later ih =>
    obtain ⟨item, fit, whole⟩ := passing read comma
    obtain ⟨passed, position, fits, same, last⟩ := ih
    exact ⟨item :: passed, position, List.forall_mem_cons.2 ⟨fit, fits⟩, whole _ _ same, last⟩
  | case4 text arg tail read last =>
    obtain ⟨item, fit, reaches, whole, -⟩ := written_of_readArg read
    refine ⟨[], text, by simp, rfl, .inr ⟨item, _, fit, reaches, whole, ?_⟩⟩
    intro comma
    obtain ⟨more, comma⟩ := List.head?_eq_some_iff.1 comma
    exact last more comma

theorem firstDefect_of_readParams (failed : readParams name text = .error error) :
    FirstDefect name text error := by
  obtain ⟨before, blank, whole⟩ := Text.exists_run isBlank text
  by_cases present : (text.dropWhile isBlank).head? = some '('
  · obtain ⟨inside, opened⟩ := List.head?_eq_some_iff.1 present
    by_cases closed : (inside.dropWhile isBlank).head? = some ')'
    · obtain ⟨after, closed⟩ := List.head?_eq_some_iff.1 closed
      rw [readParams_of_empty opened closed] at failed
      cases failed
    · obtain ⟨passed, position, fits, rfl, last⟩ := exists_last name inside
      rw [readParams_of_listed opened closed, readArgs_passed fits] at failed
      refine ⟨before, passed, position, ⟨by rw [whole, opened], blank, fits, ?_⟩, ?_⟩
      · rintro rfl
        exact closed
      · rcases last with ⟨error', none⟩ | ⟨item, rest, fit, reaches, rfl, noComma⟩
        · rw [readArgs_of_error none] at failed
          cases failed
          exact defect_of_readArg none
        · obtain ⟨tail, read, ended⟩ := readArg_reaching name fit reaches
          rw [readArgs_of_last read (by rwa [ended]), ended] at failed
          split at failed
          · next same => cases same
          · next same => cases failed
          · next notClosed same =>
            cases same
            cases failed
            refine .unexpected fit reaches ?_
            rintro c found (rfl | rfl)
            · exact noComma found
            · obtain ⟨after, rfl⟩ := List.head?_eq_some_iff.1 found
              exact notClosed after rfl
  · rw [readParams_of_absent present] at failed
    cases failed

/-- Parameters cannot be read exactly for the error of their first defect. -/
theorem readParams_eq_error_iff : readParams name text = .error error ↔ FirstDefect name text error := by
  refine ⟨firstDefect_of_readParams, ?_⟩
  rintro ⟨before, passed, position, wants, defect⟩
  exact wants.readParams defect

theorem startsWithParams_iff (name : String) :
    StartsWithParams text ↔ ∃ args rest, readParams name text = .ok (args, rest) := by
  constructor
  · rintro ⟨params, rest, fits, rfl⟩
    exact ⟨_, _, readParams_written fits⟩
  · rintro ⟨args, rest, read⟩
    obtain ⟨params, fits, whole, -⟩ := written_of_readParams read
    exact ⟨params, rest, fits, whole⟩

/-- Parameters are those of the grammar, or have a defect. -/
theorem startsWithParams_iff_not_firstDefect (name : String) (text : List Char) :
    StartsWithParams text ↔ ¬∃ error, FirstDefect name text error := by
  simp only [startsWithParams_iff name, ← readParams_eq_error_iff]
  cases readParams name text with
  | ok found => simpa using ⟨found.1, found.2, rfl⟩
  | error error => simp

theorem FirstDefect.unique {error' : ScanError} (first : FirstDefect name text error)
    (first' : FirstDefect name text error') : error = error' := by
  have failed := readParams_eq_error_iff.2 first
  rw [readParams_eq_error_iff.2 first'] at failed
  cases failed
  rfl

/-! ### Tokens that are given up -/

theorem isValidName_eq_false_iff {word : List Char} :
    isValidName word = false ↔ [] ∈ word.splitOn '.' := by
  rw [← Bool.not_eq_true, isValidName_iff]
  simp

/-- The parameters are judged first and the name after them. -/
theorem readTail_cases (word text : List Char) :
    (StartsWithParams text ∧ [] ∉ word.splitOn '.' ∧ ∃ found, readTail word text = .ok found) ∨
      (StartsWithParams text ∧ [] ∈ word.splitOn '.' ∧
        readTail word text = .error (.invalidName (String.ofList word))) ∨
      ∃ error, FirstDefect (String.ofList word) text error ∧ readTail word text = .error error := by
  rw [startsWithParams_iff (String.ofList word), readTail, ← isValidName_eq_false_iff]
  cases read : readParams (String.ofList word) text with
  | error error => exact .inr (.inr ⟨error, readParams_eq_error_iff.1 read, rfl⟩)
  | ok found =>
    obtain ⟨args, rest⟩ := found
    cases isValidName word with
    | true => exact .inl ⟨⟨args, rest, rfl⟩, Bool.noConfusion, _, rfl⟩
    | false => exact .inr (.inl ⟨⟨args, rest, rfl⟩, rfl, rfl⟩)

/-- Behind which argument the closing parenthesis was missed, and what stood in its place. -/
theorem unexpected_of_firstDefect {mismatch : Mismatch}
    (first : FirstDefect name text (.unexpected mismatch)) :
    ∃ before passed item rest, WantsArgument text before passed (Item.written item ++ rest) ∧
      item.Fits ∧ item.Reaches rest ∧ mismatch = ⟨"')'", rest.head?⟩ ∧
      (∀ c ∈ mismatch.found, ¬EndsItem c ∧ isBlank c = false) ∧
      ((∃ blanks run, item = .bare blanks run) → mismatch.found = none) := by
  obtain ⟨before, passed, position, wants, defect⟩ := first
  cases defect with
  | @unexpected item rest fits reaches other =>
    refine ⟨before, passed, item, rest, wants, fits, reaches, rfl, ?_, ?_⟩
    · exact fun c found => ⟨other c found, reaches.stops c found⟩
    · rintro ⟨blanks, run, rfl⟩
      rw [reaches.eq_nil other]
      rfl

/-- What a scan finds at a `$` depends on the text after the name. A token that is given up ends there. -/
theorem Scanner.Reads.next_of_tail {scanner : Scanner} {place : Nat} (reads : scanner.Reads text)
    (starts : NextMark text scanner.offset place) :
    let name := (text.drop (place + 1)).takeWhile isNameChar
    let stop := place + 1 + name.length
    let after := text.drop stop
    (∀ found, readTail name after = .ok found → ∃ token, scanner.next.1 = some (.ok token)) ∧
      ∀ error, readTail name after = .error error →
        scanner.next = (some (.error ⟨.ofName place name, error⟩), ⟨stop, after⟩) := by
  intro name stop after
  have rest : (text.drop (place + 1)).dropWhile isNameChar = after := by
    rw [← Text.drop_takeWhile, List.drop_drop]
  constructor
  · intro found read
    rcases readToken_cases place (text.drop (place + 1)) with
      ⟨form, tail, -, -, accepted⟩ | ⟨error, failed, -⟩
    · exact ⟨_, congrArg Prod.fst (reads.next_of_nextMark starts accepted)⟩
    · rw [rest, read] at failed
      cases failed
  · intro error failed
    rw [← rest] at failed
    have given := reads.next_of_nextMark starts (readToken_of_error place failed)
    rwa [rest] at given

/-- Where a scan finds the next `$`, the token is given up for its name if the parameters are those of
the grammar and a segment of the name is empty, and for the first defect of the parameters if they
have one. Where a closing parenthesis is missed, no blank and nothing that ends an argument stands in
its place, and behind a bare argument nothing at all. The token then covers the `$` and its name, and
the scan goes on right after the name. -/
theorem next_gives_up (text : String) (calls place : Nat)
    (starts : NextMark text.toList ((Scanner.ofString text).after calls).offset place) :
    let name := (text.toList.drop (place + 1)).takeWhile isNameChar
    let word := String.ofList name
    let stop := place + 1 + name.length
    let after := text.toList.drop stop
    let step := ((Scanner.ofString text).after calls).next
    ∃ result, step.1 = some result ∧
      (StartsWithParams after ↔ ¬∃ error, FirstDefect word after error) ∧
      (StartsWithParams after →
        ((∃ failure, result = .error failure) ↔ [] ∈ name.splitOn '.') ∧
          ∀ failure, result = .error failure → failure.error = .invalidName word) ∧
      (¬StartsWithParams after → ∃ failure, result = .error failure ∧
        ∀ error, failure.error = error ↔ FirstDefect word after error) ∧
      (∀ failure mismatch, result = .error failure → failure.error = .unexpected mismatch →
        ∃ before passed item rest, WantsArgument after before passed (Item.written item ++ rest) ∧
          item.Fits ∧ item.Reaches rest ∧ mismatch = ⟨"')'", rest.head?⟩ ∧
          (∀ c ∈ mismatch.found, ¬EndsItem c ∧ isBlank c = false) ∧
          ((∃ blanks run, item = .bare blanks run) → mismatch.found = none)) ∧
      ∀ failure, result = .error failure →
        failure.token = ⟨place, stop, String.ofList ('$' :: name), none,
            (name.splitOn '.').map String.ofList, []⟩ ∧
          step.2 = ⟨stop, after⟩ := by
  intro name word stop after step
  have reads := (Scanner.reads_ofString text).after calls
  obtain ⟨accepted, givenUp⟩ := reads.next_of_tail starts
  have exclusive := startsWithParams_iff_not_firstDefect word after
  rcases readTail_cases name after with
    ⟨sound, valid, tail, read⟩ | ⟨sound, invalid, failed⟩ | ⟨error, first, failed⟩
  · obtain ⟨token, next⟩ := accepted tail read
    refine ⟨_, next, exclusive, ?_, ?_, ?_, ?_⟩
    · refine fun _ => ⟨⟨?_, fun invalid => absurd invalid valid⟩, ?_⟩
      · rintro ⟨failure, ⟨⟩⟩
      · rintro failure ⟨⟩
    · exact fun defective => absurd sound defective
    · rintro failure mismatch ⟨⟩
    · rintro failure ⟨⟩
  · refine ⟨_, congrArg Prod.fst (givenUp _ failed), exclusive, ?_, ?_, ?_, ?_⟩
    · refine fun _ => ⟨⟨fun _ => invalid, fun _ => ⟨_, rfl⟩⟩, ?_⟩
      rintro failure ⟨⟩
      rfl
    · exact fun defective => absurd sound defective
    · rintro failure mismatch ⟨⟩ ⟨⟩
    · rintro failure ⟨⟩
      exact ⟨rfl, congrArg Prod.snd (givenUp _ failed)⟩
  · have defective : ¬StartsWithParams after := fun sound => exclusive.1 sound ⟨error, first⟩
    refine ⟨_, congrArg Prod.fst (givenUp _ failed), exclusive, ?_, ?_, ?_, ?_⟩
    · exact fun sound => absurd sound defective
    · refine fun _ => ⟨_, rfl, fun error' => ⟨?_, first.unique⟩⟩
      rintro rfl
      exact first
    · rintro failure mismatch ⟨⟩ rfl
      exact unexpected_of_firstDefect first
    · rintro failure ⟨⟩
      exact ⟨rfl, congrArg Prod.snd (givenUp _ failed)⟩

-- The name is malformed too, but its parameters are judged first.
theorem next_gives_up_semicolon :
    let text := "é $a..b ( x,'it\\'s' ; y) $c"
    let error : ScanError := .unexpected ⟨"')'", some ';'⟩
    NextMark text.toList (Scanner.ofString text).offset 2 ∧
      FirstDefect "a..b" (text.toList.drop 7) error ∧
      ∃ failure, (Scanner.ofString text).next = (some (.error failure), ⟨7, text.toList.drop 7⟩) ∧
        failure.token = ⟨2, 7, "$a..b", none, ["a", "", "b"], []⟩ ∧ failure.error = error := by
  intro text error
  have starts : NextMark text.toList (Scanner.ofString text).offset 2 :=
    ⟨by decide, by decide, by decide⟩
  have blank : ∀ c ∈ [' '], isBlank c := List.all_eq_true.1 (by decide)
  let passed : Item := .bare [' '] ['x']
  let item : Item := .quoted [] '\'' [.plain 'i', .plain 't', .escaped '\'', .plain 's'] [' ']
  have passedFits : passed.Fits := ⟨blank, by decide, by simp [EndsItem], by rintro c ⟨⟩; decide⟩
  have fits : item.Fits := ⟨by simp, by decide, by simp [Piece.Fits], blank⟩
  have first : FirstDefect "a..b" (text.toList.drop 7) error := by
    refine ⟨[' '], [passed], item.written ++ "; y) $c".toList, ⟨by decide, blank, ?_, by simp⟩, ?_⟩
    · simpa using passedFits
    · exact .unexpected fits (Text.stops_cons.2 (by decide)) (by rintro c ⟨⟩; decide)
  have name : (text.toList.drop (2 + 1)).takeWhile isNameChar = "a..b".toList := by decide
  have judged := next_gives_up text 0 2 starts
  simp only [name] at judged
  obtain ⟨result, found, exclusive, -, defective, -, covers⟩ := judged
  obtain ⟨failure, rfl, named⟩ := defective fun sound => exclusive.1 sound ⟨error, first⟩
  obtain ⟨token, next⟩ := covers failure rfl
  exact ⟨starts, first, failure, Prod.ext found next, token, (named error).2 first⟩

end StyleTokens
