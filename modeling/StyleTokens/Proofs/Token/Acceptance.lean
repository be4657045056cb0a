import StyleTokens.Proofs.Token.Reading

/-! A token is accepted exactly when the text at its place is written by a form of the grammar, and
then by one form only. The form says all there is to know about the token. -/

set_option autoImplicit false

namespace StyleTokens

open Text (isBlank Stops)

variable {text rest : List Char} {args : List (List Char)}

/-! ### Tokens -/

theorem isValidName_iff {name : List Char} :
    isValidName name ↔ ∀ segment ∈ name.splitOn '.', segment ≠ [] := by
  simp [isValidName]

theorem readTail_written {form : Form} (fits : form.Fits rest) :
    readTail form.name (form.tail ++ rest) = .ok (form.params.args, form.suffix, rest) := by
  unfold readTail
  rw [Form.tail, List.append_assoc, readParams_written fits.params]
  dsimp only
  rw [if_pos (isValidName_iff.2 fits.segments), readSuffix_written fits.suffix fits.noSuffix]

theorem written_of_readTail {name : List Char} {suffix : Option Char}
    (named : ∀ c ∈ name, isNameChar c) (longest : Stops isNameChar text)
    (read : readTail name text = .ok (args, suffix, rest)) :
    ∃ form : Form, form.Fits rest ∧ form.name = name ∧ text = form.tail ++ rest ∧
      form.params.args = args ∧ form.suffix = suffix := by
  unfold readTail at read
  split at read
  · cases read
  · next args' after found =>
    split at read
    · next valid =>
      obtain ⟨params, fits, rfl, rfl⟩ := written_of_readParams found
      obtain ⟨rfl, suffixed⟩ := Prod.mk.injEq .. ▸ Except.ok.injEq .. ▸ read
      obtain ⟨rfl, blank, noSuffix⟩ := written_of_readSuffix suffixed
      refine ⟨⟨name, params, suffix⟩, ⟨named, ?_, isValidName_iff.1 valid, fits, blank, noSuffix⟩,
        rfl, ?_, rfl, rfl⟩
      · simpa [Form.tail] using longest
      · simp [Form.tail]
    · cases read

/-- The token of a failure covers the `$` and the name. -/
def Token.ofName (start : Nat) (name : List Char) : Token where
  start
  stop := start + 1 + name.length
  raw := String.ofList ('$' :: name)
  suffix := none
  path := (name.splitOn '.').map String.ofList
  args := []

/-- A token whose tail cannot be read is given up right after its name. -/
theorem readToken_of_error {error : ScanError} (offset : Nat)
    (failed : readTail (text.takeWhile isNameChar) (text.dropWhile isNameChar) = .error error) :
    readToken offset text =
      (.error ⟨.ofName offset (text.takeWhile isNameChar), error⟩, text.dropWhile isNameChar) := by
  have whole := (List.takeWhile_append_dropWhile (p := isNameChar) (l := text)).symm
  unfold readToken
  simp only [failed, Text.length_sub_of_append whole, Text.take_of_append whole]
  rfl

theorem readToken_written {form : Form} (fits : form.Fits rest) (offset : Nat) :
    readToken offset (form.name ++ (form.tail ++ rest)) = (.ok (form.token offset), rest) := by
  have whole := (List.append_assoc form.name form.tail rest).symm
  have stop : offset + 1 + (form.name ++ form.tail).length = offset + form.written.length := by
    simp only [Form.written, List.length_cons]
    omega
  unfold readToken
  simp only [Text.takeWhile_append_of_stops fits.name fits.longest,
    Text.dropWhile_append_of_stops fits.name fits.longest, readTail_written fits,
    Text.length_sub_of_append whole, Text.take_of_append whole, stop]
  rfl

/-- A token is read as the token of a form, or given up. -/
theorem readToken_cases (offset : Nat) (text : List Char) :
    (∃ form rest, Form.Fits form rest ∧ text = form.name ++ (form.tail ++ rest) ∧
        readToken offset text = (.ok (form.token offset), rest)) ∨
      ∃ error, readTail (text.takeWhile isNameChar) (text.dropWhile isNameChar) = .error error ∧
        readToken offset text =
          (.error ⟨.ofName offset (text.takeWhile isNameChar), error⟩,
            text.dropWhile isNameChar) := by
  have named : ∀ c ∈ text.takeWhile isNameChar, isNameChar c := fun c => List.mem_takeWhile_imp
  cases found : readTail (text.takeWhile isNameChar) (text.dropWhile isNameChar) with
  | error error => exact .inr ⟨error, rfl, readToken_of_error offset found⟩
  | ok result =>
    obtain ⟨args, suffix, rest⟩ := result
    obtain ⟨form, fits, name, tail, -, -⟩ :=
      written_of_readTail named (Text.stops_dropWhile _ _) found
    have whole : text = form.name ++ (form.tail ++ rest) := by
      rw [name, ← tail, List.takeWhile_append_dropWhile]
    refine .inl ⟨form, rest, fits, whole, ?_⟩
    rw [whole]
    exact readToken_written fits offset

theorem readToken_eq_ok_iff {offset : Nat} {token : Token} :
    readToken offset text = (.ok token, rest) ↔
      ∃ form : Form, form.Fits rest ∧ text = form.name ++ (form.tail ++ rest) ∧
        token = form.token offset := by
  constructor
  · intro read
    rcases readToken_cases offset text with ⟨form, rest', fits, whole, same⟩ | ⟨error, -, same⟩
    · rw [same] at read
      cases read
      exact ⟨form, fits, whole, rfl⟩
    · rw [same] at read
      cases read
  · rintro ⟨form, fits, rfl, rfl⟩
    exact readToken_written fits offset

/-! ### One form only -/

/-- An argument and the character that ends it are read off the text in one way. -/
theorem Item.Fits.unique {item item' : Item} (fits : item.Fits) (fits' : item'.Fits) {c c' : Char}
    {rest' : List Char} (ends : EndsItem c) (ends' : EndsItem c')
    (same : item.written ++ c :: rest = item'.written ++ c' :: rest') :
    item = item' ∧ c = c' ∧ rest = rest' := by
  have stops : Stops isBlank (c :: rest) := by simpa using isBlank_of_endsItem ends
  have stops' : Stops isBlank (c' :: rest') := by simpa using isBlank_of_endsItem ends'
  rw [Item.written, Item.written, List.append_assoc, List.append_assoc] at same
  obtain ⟨before, core⟩ := Text.run_unique fits.blank_before (fits.stops_core _)
    fits'.blank_before (fits'.stops_core _) same
  -- the first character after the blanks is a quote in the one kind of argument only
  cases item with
  | quoted _ mark body after =>
    obtain ⟨-, quote, pieces, blankAfter⟩ := fits
    cases item' with
    | quoted _ mark' body' after' =>
      obtain ⟨-, quote', pieces', blankAfter'⟩ := fits'
      rw [Item.core, Item.core, List.cons_append, List.cons_append, List.append_assoc,
        List.append_assoc] at core
      obtain ⟨rfl, core⟩ := List.cons.inj core
      obtain ⟨rfl, tails⟩ :=
        Quoted.writtenBody_unique (ne_backslash_of_isQuote quote) pieces pieces' core
      obtain ⟨rfl, ends⟩ := Text.run_unique blankAfter stops blankAfter' stops' tails
      obtain ⟨rfl, rfl⟩ := List.cons.inj ends
      cases before
      exact ⟨rfl, rfl, rfl⟩
    | bare _ run' =>
      obtain ⟨-, filled', -, first'⟩ := fits'
      obtain ⟨d, more, rfl⟩ := List.exists_cons_of_ne_nil filled'
      obtain ⟨rfl, -⟩ := List.cons.inj core
      exact absurd quote (first' _ rfl).2
  | bare _ run =>
    obtain ⟨-, filled, inside, first⟩ := fits
    cases item' with
    | quoted _ mark' body' after' =>
      obtain ⟨-, quote', -, -⟩ := fits'
      obtain ⟨d, more, rfl⟩ := List.exists_cons_of_ne_nil filled
      obtain ⟨rfl, -⟩ := List.cons.inj core
      exact absurd quote' (first _ rfl).2
    | bare _ run' =>
      obtain ⟨-, -, inside', -⟩ := fits'
      obtain ⟨rfl, ends⟩ := Text.run_unique (fun d found => isBareChar_eq_true.2 (inside d found))
        (by simpa using isBareChar_eq_false.2 ends)
        (fun d found => isBareChar_eq_true.2 (inside' d found))
        (by simpa using isBareChar_eq_false.2 ends') core
      obtain ⟨rfl, rfl⟩ := List.cons.inj ends
      cases before
      exact ⟨rfl, rfl, rfl⟩

-- An argument is the same in both lists with the character that ends it, so the lists go on or end
-- together.
theorem writtenItems_unique {first first' : Item} {more more' : List Item} {rest' : List Char}
    (fits : ∀ item ∈ first :: more, item.Fits) (fits' : ∀ item ∈ first' :: more', item.Fits)
    (same : writtenItems first more ++ ')' :: rest = writtenItems first' more' ++ ')' :: rest') :
    first = first' ∧ more = more' ∧ rest = rest' := by
  induction more generalizing first first' more' with
  | nil =>
    obtain ⟨fit, -⟩ := List.forall_mem_cons.1 fits
    obtain ⟨fit', -⟩ := List.forall_mem_cons.1 fits'
    cases more' with
    | nil =>
      obtain ⟨rfl, -, rfl⟩ := fit.unique fit' (.inr rfl) (.inr rfl) same
      exact ⟨rfl, rfl, rfl⟩
    | cons second' more' =>
      rw [writtenItems, writtenItems, List.append_assoc, List.cons_append] at same
      obtain ⟨-, impossible, -⟩ := fit.unique fit' (.inr rfl) (.inl rfl) same
      cases impossible
  | cons second more ih =>
    obtain ⟨fit, others⟩ := List.forall_mem_cons.1 fits
    obtain ⟨fit', others'⟩ := List.forall_mem_cons.1 fits'
    cases more' with
    | nil =>
      rw [writtenItems, writtenItems, List.append_assoc, List.cons_append] at same
      obtain ⟨-, impossible, -⟩ := fit.unique fit' (.inl rfl) (.inr rfl) same
      cases impossible
    | cons second' more' =>
      rw [writtenItems, writtenItems, List.append_assoc, List.cons_append, List.append_assoc,
        List.cons_append] at same
      obtain ⟨rfl, -, tails⟩ := fit.unique fit' (.inl rfl) (.inl rfl) same
      obtain ⟨rfl, rfl, rfl⟩ := ih others others' tails
      exact ⟨rfl, rfl, rfl⟩

theorem not_written_blank {inside : List Char} {first : Item} {more : List Item} {rest' : List Char}
    (blank : ∀ c ∈ inside, isBlank c) (fits : first.Fits) :
    inside ++ ')' :: rest ≠ writtenItems first more ++ ')' :: rest' := by
  intro same
  obtain ⟨c, core, start, notEnd⟩ := writtenItems_start fits more (')' :: rest')
  rw [← same, Text.dropWhile_append_of_stops blank (stops_closing _)] at start
  obtain ⟨rfl, -⟩ := List.cons.inj start
  exact notEnd (.inr rfl)

namespace Params.Fits

variable {params params' : Params} {rest' : List Char}

-- Absence looks ahead: it is refuted by any text that the other two kinds write.
theorem eq_absent (fits : params.Fits rest) (absent : Params.absent.Fits (params.written ++ rest)) :
    params = .absent := by
  cases params with
  | absent => rfl
  | empty before inside =>
    rw [written_empty_append] at absent
    exact absurd (by rw [Text.dropWhile_append_of_stops fits.1 (stops_opening _)]; rfl) absent
  | listed before first more =>
    rw [written_listed_append] at absent
    exact absurd (by rw [Text.dropWhile_append_of_stops fits.1 (stops_opening _)]; rfl) absent

theorem unique (fits : params.Fits rest) (fits' : params'.Fits rest')
    (same : params.written ++ rest = params'.written ++ rest') : params = params' ∧ rest = rest' := by
  cases params with
  | absent =>
    change rest = _ at same
    subst same
    obtain rfl := fits'.eq_absent fits
    exact ⟨rfl, rfl⟩
  | empty before inside =>
    cases params' with
    | absent =>
      change _ = rest' at same
      subst same
      cases fits.eq_absent fits'
    | empty before' inside' =>
      rw [written_empty_append, written_empty_append] at same
      obtain ⟨rfl, inner⟩ := Text.run_unique fits.1 (stops_opening _) fits'.1 (stops_opening _) same
      obtain ⟨rfl, tails⟩ :=
        Text.run_unique fits.2 (stops_closing _) fits'.2 (stops_closing _) (List.cons.inj inner).2
      exact ⟨rfl, (List.cons.inj tails).2⟩
    | listed before' first' more' =>
      rw [written_empty_append, written_listed_append] at same
      obtain ⟨-, inner⟩ := Text.run_unique fits.1 (stops_opening _) fits'.1 (stops_opening _) same
      have first := fits'.2 first' (List.mem_cons_self ..)
      exact absurd (List.cons.inj inner).2 (not_written_blank fits.2 first)
  | listed before first more =>
    cases params' with
    | absent =>
      change _ = rest' at same
      subst same
      cases fits.eq_absent fits'
    | empty before' inside' =>
      rw [written_listed_append, written_empty_append] at same
      obtain ⟨-, inner⟩ := Text.run_unique fits.1 (stops_opening _) fits'.1 (stops_opening _) same
      have first := fits.2 first (List.mem_cons_self ..)
      exact absurd (List.cons.inj inner).2.symm (not_written_blank fits'.2 first)
    | listed before' first' more' =>
      rw [written_listed_append, written_listed_append] at same
      obtain ⟨rfl, inner⟩ := Text.run_unique fits.1 (stops_opening _) fits'.1 (stops_opening _) same
      obtain ⟨rfl, rfl, rfl⟩ := writtenItems_unique fits.2 fits'.2 (List.cons.inj inner).2
      exact ⟨rfl, rfl⟩

end Params.Fits

/-- A text has one form at most. -/
theorem Form.Fits.unique {form form' : Form} {rest' : List Char} (fits : form.Fits rest)
    (fits' : form'.Fits rest') (same : form.written ++ rest = form'.written ++ rest') :
    form = form' ∧ rest = rest' := by
  -- from left to right: what is known of each part leaves the next one to compare
  rw [Form.written, Form.written, List.cons_append, List.cons_append, List.append_assoc,
    List.append_assoc] at same
  obtain ⟨name, tails⟩ :=
    Text.run_unique fits.name fits.longest fits'.name fits'.longest (List.cons.inj same).2
  rw [Form.tail, Form.tail, List.append_assoc, List.append_assoc] at tails
  obtain ⟨params, suffixes⟩ := fits.params.unique fits'.params tails
  have read := readSuffix_written fits.suffix fits.noSuffix
  rw [suffixes, readSuffix_written fits'.suffix fits'.noSuffix] at read
  obtain ⟨suffix, rests⟩ := Prod.mk.inj read
  cases form
  cases form'
  cases name
  cases params
  cases suffix
  exact ⟨rfl, rests.symm⟩

end StyleTokens
