import StyleTokens.Proofs.Token.Grammar

/-! The readers of a token and the grammar of its written form accept the same texts. For each
reader, what a tree writes is read back, and what is read was written by some tree. -/

set_option autoImplicit false

namespace StyleTokens

open Text (isBlank Stops)
open Quoted (Piece writtenBody)

variable {name : String} {text rest tail arg : List Char} {args : List (List Char)}

/-! ### One argument -/

theorem isBareChar_eq_false {c : Char} : isBareChar c = false ↔ EndsItem c := by
  simp only [isBareChar, EndsItem, bne, Bool.and_eq_false_iff, Bool.not_eq_false', beq_iff_eq]

theorem isBareChar_eq_true {c : Char} : isBareChar c = true ↔ ¬EndsItem c := by
  rw [← isBareChar_eq_false, Bool.not_eq_false]

theorem stops_isBlank (stops : Stops isBareChar text) : Stops isBlank text := by
  intro c found
  exact isBlank_of_endsItem (isBareChar_eq_false.1 (stops c found))

theorem readArg_of_end (ended : text.dropWhile isBlank = []) :
    readArg name text = .error (.missingArgument name) := by
  unfold readArg
  rw [ended]

theorem readArg_of_quote {mark : Char} (found : text.dropWhile isBlank = mark :: rest)
    (quote : IsQuote mark) :
    readArg name text = match Quoted.unescape mark rest with
      | some found => .ok found
      | none => .error (.unterminatedString name) := by
  have inside : Cursor.Inside ⟨rest, 0⟩ := Nat.zero_le _
  have left : (⟨rest, 0⟩ : Cursor).rest = rest := rfl
  have read := Quoted.read_eq (ne_backslash_of_isQuote quote) name inside
  rw [left] at read
  unfold readArg
  rw [found]
  refine (if_pos quote).trans ?_
  cases closed : Quoted.unescape mark rest with
  | none => simp only [read, closed]
  | some result =>
    simp only [read, closed, String.toList_ofList, Quoted.rest_before_of_unescape inside closed]

theorem readArg_of_bare {c : Char} (found : text.dropWhile isBlank = c :: rest)
    (bare : ¬IsQuote c) : readArg name text = readBare name (c :: rest) := by
  unfold readArg
  rw [found]
  exact if_neg bare

theorem readArg_dropWhile (name : String) (text : List Char) :
    readArg name (text.dropWhile isBlank) = readArg name text := by
  unfold readArg
  rw [Text.dropWhile_dropWhile]

theorem readBare_run {run : List Char} (filled : run ≠ []) (inside : ∀ c ∈ run, ¬EndsItem c)
    (ends : Stops isBareChar rest) : readBare name (run ++ rest) = .ok (run, rest) := by
  have bare : ∀ c ∈ run, isBareChar c := fun c found => isBareChar_eq_true.2 (inside c found)
  unfold readBare
  rw [Text.takeWhile_append_of_stops bare ends, Text.dropWhile_append_of_stops bare ends]
  split
  · exact absurd rfl filled
  · rfl

/-- What is read without quotes is not empty and ends where the text does or an argument can. -/
theorem run_of_readBare (read : readBare name text = .ok (arg, tail)) :
    arg ≠ [] ∧ (∀ c ∈ arg, ¬EndsItem c) ∧ text = arg ++ tail ∧ Stops isBareChar tail := by
  unfold readBare at read
  split at read
  · cases read
  · next c run found =>
    cases read
    refine ⟨List.cons_ne_nil _ _, fun c inside => ?_, ?_, Text.stops_dropWhile _ _⟩
    · rw [← found] at inside
      exact isBareChar_eq_true.1 (List.mem_takeWhile_imp inside)
    · rw [← found, List.takeWhile_append_dropWhile]

/-- An argument is read with all that it reaches. -/
theorem readArg_reaching (name : String) {item : Item} (fits : item.Fits)
    (reaches : item.Reaches rest) :
    ∃ tail, readArg name (item.written ++ rest) = .ok (item.arg, tail) ∧
      tail.dropWhile isBlank = rest := by
  have opened := fits.dropWhile_written rest
  cases item with
  | quoted before mark body after =>
    obtain ⟨-, quote, pieces, blankAfter⟩ := fits
    refine ⟨after ++ rest, ?_, Text.dropWhile_append_of_stops blankAfter reaches⟩
    rw [Item.core, List.cons_append, List.append_assoc, List.cons_append] at opened
    rw [readArg_of_quote opened quote,
      Quoted.unescape_writtenBody (ne_backslash_of_isQuote quote) pieces]
    rfl
  | bare before run =>
    obtain ⟨-, filled, inside, first⟩ := fits
    obtain ⟨d, more, rfl⟩ := List.exists_cons_of_ne_nil filled
    refine ⟨rest, ?_, Text.dropWhile_of_stops (stops_isBlank reaches)⟩
    rw [Item.core, List.cons_append] at opened
    rw [readArg_of_bare opened (first d rfl).2]
    exact readBare_run filled inside reaches

theorem Item.reaches_of_endsItem {c : Char} (ends : EndsItem c) (rest : List Char) (item : Item) :
    item.Reaches (c :: rest) := by
  cases item with
  | quoted => exact Text.stops_cons.2 (isBlank_of_endsItem ends)
  | bare => exact Text.stops_cons.2 (isBareChar_eq_false.2 ends)

/-- An argument is read up to the character that ends it. -/
theorem readArg_written (name : String) {item : Item} (fits : item.Fits) {c : Char}
    (ends : EndsItem c) (rest : List Char) :
    ∃ tail, readArg name (item.written ++ c :: rest) = .ok (item.arg, tail) ∧
      tail.dropWhile isBlank = c :: rest :=
  readArg_reaching name fits (item.reaches_of_endsItem ends rest)

/-- An argument that is read was written, with all that it reaches. -/
theorem written_of_readArg (read : readArg name text = .ok (arg, tail)) :
    ∃ item : Item, item.Fits ∧ item.Reaches (tail.dropWhile isBlank) ∧
      text = item.written ++ tail.dropWhile isBlank ∧ item.arg = arg := by
  obtain ⟨before, blank, whole⟩ := Text.exists_run isBlank text
  have stops := Text.stops_dropWhile isBlank text
  cases opened : text.dropWhile isBlank with
  | nil => rw [readArg_of_end opened] at read; cases read
  | cons d inner =>
    rw [opened] at whole stops
    by_cases quote : IsQuote d
    · rw [readArg_of_quote opened quote] at read
      split at read
      · next closed =>
        cases read
        obtain ⟨body, pieces, rfl, rfl⟩ := Quoted.writtenBody_of_unescape closed
        obtain ⟨after, blankAfter, wholeAfter⟩ := Text.exists_run isBlank tail
        refine ⟨.quoted before d body after, ⟨blank, quote, pieces, blankAfter⟩,
          Text.stops_dropWhile isBlank tail, ?_, rfl⟩
        simpa [Item.written, Item.before, Item.core, ← wholeAfter] using whole
      · cases read
    · rw [readArg_of_bare opened quote] at read
      obtain ⟨filled, inside, same, stopsBare⟩ := run_of_readBare read
      -- A bare argument keeps its blanks, so none are left behind it.
      rw [Text.dropWhile_of_stops (stops_isBlank stopsBare)]
      obtain ⟨e, run, rfl⟩ := List.exists_cons_of_ne_nil filled
      obtain ⟨rfl, rfl⟩ := List.cons.inj same
      refine ⟨.bare before (d :: run), ⟨blank, filled, inside, ?_⟩, stopsBare, ?_, rfl⟩
      · rintro _ ⟨⟩
        exact ⟨by simpa using stops, quote⟩
      · simpa [Item.written, Item.before, Item.core] using whole

/-! ### A list of arguments -/

theorem readArgs_of_error {error : ScanError} (failed : readArg name text = .error error) :
    readArgs name text = .error error := by
  rw [readArgs.eq_def]
  split
  · next same => rw [failed] at same; cases same; rfl
  · next same => rw [failed] at same; cases same

theorem readArgs_of_comma {more : List Char} (read : readArg name text = .ok (arg, tail))
    (comma : tail.dropWhile isBlank = ',' :: more) :
    readArgs name text = match readArgs name more with
      | .error error => .error error
      | .ok (args, after) => .ok (arg :: args, after) := by
  rw [readArgs.eq_def]
  split
  · next same => rw [read] at same; cases same
  · next same =>
    rw [read] at same
    cases same
    split
    · next found => rw [comma] at found; cases found; rfl
    · next other => exact absurd comma (other more)

theorem readArgs_of_last (read : readArg name text = .ok (arg, tail))
    (last : (tail.dropWhile isBlank).head? ≠ some ',') :
    readArgs name text = .ok ([arg], tail.dropWhile isBlank) := by
  rw [readArgs.eq_def]
  split
  · next same => rw [read] at same; cases same
  · next same =>
    rw [read] at same
    cases same
    split
    · next found => rw [found] at last; exact absurd rfl last
    · rfl

theorem readArgs_written {first : Item} {more : List Item} (fits : ∀ item ∈ first :: more, item.Fits)
    (rest : List Char) :
    readArgs name (writtenItems first more ++ ')' :: rest) =
      .ok ((first :: more).map Item.arg, ')' :: rest) := by
  induction more generalizing first with
  | nil =>
    obtain ⟨tail, read, ended⟩ := readArg_written name (fits first (by simp)) (.inr rfl) rest
    rw [writtenItems, readArgs_of_last read (by simp [ended]), ended]
    rfl
  | cons second more ih =>
    obtain ⟨fit, fits⟩ := List.forall_mem_cons.1 fits
    obtain ⟨tail, read, ended⟩ :=
      readArg_written name fit (.inl rfl) (writtenItems second more ++ ')' :: rest)
    rw [writtenItems, List.append_assoc, List.cons_append, readArgs_of_comma read ended, ih fits]
    rfl

theorem written_of_readArgs (read : readArgs name text = .ok (args, ')' :: rest)) :
    ∃ first more, (∀ item ∈ first :: more, item.Fits) ∧
      text = writtenItems first more ++ ')' :: rest ∧ (first :: more).map Item.arg = args := by
  -- the reader calls itself once for each comma, so its calls are the items
  fun_induction readArgs name text generalizing args rest with
  | case1 => cases read
  | case2 => cases read
  | case3 text arg tail read' more comma args after inner ih =>
    cases read
    obtain ⟨second, items, fits, rfl, rfl⟩ := ih inner
    obtain ⟨first, fit, -, rfl, rfl⟩ := written_of_readArg read'
    rw [comma]
    exact ⟨first, second :: items, List.forall_mem_cons.2 ⟨fit, fits⟩, by simp [writtenItems], rfl⟩
  | case4 text arg tail read' last =>
    obtain ⟨rfl, ended⟩ := Prod.mk.injEq .. ▸ Except.ok.injEq .. ▸ read
    obtain ⟨first, fit, -, rfl, rfl⟩ := written_of_readArg read'
    rw [ended]
    exact ⟨first, [], by simpa using fit, rfl, rfl⟩

-- Only the head of the text changes, and the reader of one argument skips its blanks anyway.
theorem readArgs_dropWhile (name : String) (text : List Char) :
    readArgs name (text.dropWhile isBlank) = readArgs name text := by
  have same := readArg_dropWhile name text
  cases read : readArg name text with
  | error error => rw [readArgs_of_error read, readArgs_of_error (same.trans read)]
  | ok found =>
    obtain ⟨arg, tail⟩ := found
    by_cases comma : (tail.dropWhile isBlank).head? = some ','
    · obtain ⟨more, comma⟩ := List.head?_eq_some_iff.1 comma
      rw [readArgs_of_comma read comma, readArgs_of_comma (same.trans read) comma]
    · rw [readArgs_of_last read comma, readArgs_of_last (same.trans read) comma]

/-! ### Parameters and the blank after them -/

theorem readParams_of_absent (absent : (text.dropWhile isBlank).head? ≠ some '(') :
    readParams name text = .ok ([], text) := by
  unfold readParams
  split
  · next opened => rw [opened] at absent; exact absurd rfl absent
  · rfl

theorem readParams_of_empty {inside : List Char} (opened : text.dropWhile isBlank = '(' :: inside)
    (closed : inside.dropWhile isBlank = ')' :: rest) : readParams name text = .ok ([], rest) := by
  unfold readParams
  rw [opened]
  simp only [closed]

theorem readParams_of_listed {inside : List Char} (opened : text.dropWhile isBlank = '(' :: inside)
    (filled : (inside.dropWhile isBlank).head? ≠ some ')') :
    readParams name text = match readArgs name inside with
      | .error error => .error error
      | .ok (args, ')' :: rest) => .ok (args, rest)
      | .ok (_, rest) => .error (.unexpected ⟨"')'", rest.head?⟩) := by
  unfold readParams
  simp only [opened]
  split
  · next closed => rw [closed] at filled; exact absurd rfl filled
  · exact readArgs_dropWhile name inside ▸ rfl

theorem readParams_written {params : Params} (fits : params.Fits rest) :
    readParams name (params.written ++ rest) = .ok (params.args, rest) := by
  cases params with
  | absent => exact readParams_of_absent fits
  | empty before inside =>
    obtain ⟨blank, blankInside⟩ := fits
    have opened := Text.dropWhile_append_of_stops blank (stops_opening (inside ++ ')' :: rest))
    have closed := Text.dropWhile_append_of_stops blankInside (stops_closing rest)
    rw [Params.written_empty_append]
    exact readParams_of_empty opened closed
  | listed before first more =>
    obtain ⟨blank, items⟩ := fits
    have opened := Text.dropWhile_append_of_stops blank
      (stops_opening (writtenItems first more ++ ')' :: rest))
    obtain ⟨c, core, start, notEnd⟩ :=
      writtenItems_start (items first (by simp)) more (')' :: rest)
    have filled : ((writtenItems first more ++ ')' :: rest).dropWhile isBlank).head? ≠ some ')' := by
      rw [start]
      rintro ⟨⟩
      exact notEnd (.inr rfl)
    rw [Params.written_listed_append, readParams_of_listed opened filled, readArgs_written items]
    rfl

theorem written_of_readParams (read : readParams name text = .ok (args, rest)) :
    ∃ params : Params, params.Fits rest ∧ text = params.written ++ rest ∧ params.args = args := by
  obtain ⟨before, blank, whole⟩ := Text.exists_run isBlank text
  -- the three kinds of parameters are told apart by the two characters that the reader probes
  by_cases present : (text.dropWhile isBlank).head? = some '('
  · obtain ⟨inside, opened⟩ := List.head?_eq_some_iff.1 present
    rw [opened] at whole
    obtain ⟨between, blankInside, wholeInside⟩ := Text.exists_run isBlank inside
    by_cases closed : (inside.dropWhile isBlank).head? = some ')'
    · obtain ⟨after, closed⟩ := List.head?_eq_some_iff.1 closed
      rw [readParams_of_empty opened closed] at read
      cases read
      rw [closed] at wholeInside
      refine ⟨.empty before between, ⟨blank, blankInside⟩, ?_, rfl⟩
      rw [Params.written_empty_append, ← wholeInside]
      exact whole
    · rw [readParams_of_listed opened closed] at read
      split at read
      · cases read
      · next found =>
        cases read
        obtain ⟨first, more, items, written, rfl⟩ := written_of_readArgs found
        refine ⟨.listed before first more, ⟨blank, items⟩, ?_, rfl⟩
        rw [Params.written_listed_append, ← written]
        exact whole
      · cases read
  · rw [readParams_of_absent present] at read
    cases read
    exact ⟨.absent, present, rfl, rfl⟩

theorem readSuffix_written {suffix : Option Char} (blank : ∀ c ∈ suffix, isBlank c)
    (noSuffix : suffix = none → Stops isBlank rest) :
    readSuffix (suffix.toList ++ rest) = (suffix, rest) := by
  cases suffix with
  | some c => simp [readSuffix, blank c rfl]
  | none =>
    cases rest with
    | nil => rfl
    | cons c rest =>
      have notBlank : isBlank c = false := by simpa using noSuffix rfl
      simp [readSuffix, notBlank]

theorem written_of_readSuffix {suffix : Option Char} (read : readSuffix text = (suffix, rest)) :
    text = suffix.toList ++ rest ∧ (∀ c ∈ suffix, isBlank c) ∧
      (suffix = none → Stops isBlank rest) := by
  cases text with
  | nil =>
    cases read
    simp
  | cons c text =>
    by_cases blank : isBlank c
    · rw [readSuffix, if_pos blank] at read
      cases read
      simp [blank]
    · rw [readSuffix, if_neg blank] at read
      cases read
      simpa using blank

end StyleTokens
