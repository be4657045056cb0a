import StyleTokens.Proofs.Token.Shift

/-! Cutting a text in two. If the last character before the cut is neither blank nor in a token, then
no token before the cut was read with a view to what follows it, and the tokens of the two parts are
the tokens of the whole. A well-formed token can be cut out of its text at both of its ends. -/

set_option autoImplicit false

namespace StyleTokens

open Text (isBlank Stops)

variable {text rest : List Char}

/-- The last character of a text is not blank. -/
def EndsSolid (text : List Char) : Prop := ∃ c, text.getLast? = some c ∧ isBlank c = false

theorem EndsSolid.append_left (solid : EndsSolid rest) (before : List Char) :
    EndsSolid (before ++ rest) := by
  obtain ⟨c, last, notBlank⟩ := solid
  exact ⟨c, by rw [List.getLast?_append, last, Option.some_or], notBlank⟩

theorem EndsSolid.ne_nil (solid : EndsSolid text) : text ≠ [] := by
  rintro rfl
  obtain ⟨c, ⟨⟩, -⟩ := solid

-- The last character stops the blanks at the latest, so they do not reach what follows.
theorem EndsSolid.dropWhile_ne_nil (solid : EndsSolid text) : text.dropWhile isBlank ≠ [] := by
  obtain ⟨c, last, notBlank⟩ := solid
  intro all
  have blank := List.dropWhile_eq_nil_iff.1 all c (List.mem_of_getLast? last)
  rw [notBlank] at blank
  cases blank

/-! ### Tokens before the cut -/

theorem Params.Fits.append {params : Params} (fits : params.Fits rest) (solid : EndsSolid rest)
    (more : List Char) : params.Fits (rest ++ more) := by
  cases params with
  | absent =>
    have filled := solid.dropWhile_ne_nil
    change ((rest ++ more).dropWhile isBlank).head? ≠ some '('
    rw [List.dropWhile_append, if_neg (by simpa using filled),
      List.head?_append_of_ne_nil _ filled]
    exact fits
  | empty => exact fits
  | listed => exact fits

/-- A form that fits before a text fits before any longer one, if the text does not end with a
blank. -/
theorem Form.Fits.append {form : Form} (fits : form.Fits rest) (solid : EndsSolid rest)
    (more : List Char) : form.Fits (rest ++ more) where
  name := fits.name
  longest := by
    rw [← List.append_assoc]
    exact fits.longest.append (solid.append_left _).ne_nil more
  segments := fits.segments
  params := by
    rw [← List.append_assoc]
    exact fits.params.append (solid.append_left _) more
  suffix := fits.suffix
  noSuffix := fun none => (fits.noSuffix none).append solid.ne_nil more

theorem readToken_append {offset : Nat} {token : Token}
    (read : readToken offset text = (.ok token, rest)) (solid : EndsSolid rest) (more : List Char) :
    readToken offset (text ++ more) = (.ok token, rest ++ more) := by
  obtain ⟨form, fits, rfl, rfl⟩ := readToken_eq_ok_iff.1 read
  exact readToken_eq_ok_iff.2 ⟨form, fits.append solid more, by simp, rfl⟩

/-! ### Texts that can be cut -/

namespace Scanner

-- The condition on the last character is kept along a scan, since each token leaves something of the
-- text behind it.
theorem all_append {scanner : Scanner}
    (formed : ∀ scanned ∈ scanner.all, ∃ token, scanned = .ok token)
    (outside : ∀ scanned ∈ scanner.all,
      (scannedToken scanned).stop < scanner.offset + scanner.rest.length)
    (notBlank : ∀ c ∈ scanner.rest.getLast?, isBlank c = false) (more : List Char) :
    (⟨scanner.offset, scanner.rest ++ more⟩ : Scanner).all =
      scanner.all ++ (⟨scanner.offset + scanner.rest.length, more⟩ : Scanner).all := by
  fun_induction Scanner.all scanner with
  | case1 scanner next ended => exact all_of_gap (plain_of_next ended) ..
  | case2 scanner result next found ih =>
    obtain ⟨token, rfl⟩ := formed result List.mem_cons_self
    obtain ⟨gap, tail, plain, whole, read, offset⟩ := gap_of_next found
    obtain ⟨body, consumed, -, stop, -⟩ := readToken_span read
    have length : next.offset + next.rest.length = scanner.offset + scanner.rest.length := by
      rw [offset, stop, whole, consumed]
      simp only [List.length_append, List.length_cons]
      omega
    have filled : next.rest ≠ [] := by
      intro empty
      have before := outside _ List.mem_cons_self
      rw [empty, List.length_nil] at length
      omega
    have last : scanner.rest.getLast? = next.rest.getLast? := by
      rw [whole, consumed, ← List.cons_append, ← List.append_assoc,
        List.getLast?_append_of_ne_nil _ filled]
    rw [last] at notBlank
    obtain ⟨c, ends⟩ := Option.isSome_iff_exists.1 (List.getLast?_isSome.2 filled)
    have solid : EndsSolid next.rest := ⟨c, ends, notBlank c ends⟩
    have longer : scanner.rest ++ more = gap ++ '$' :: (tail ++ more) := by
      rw [whole, List.append_assoc, List.cons_append]
    have step : (⟨scanner.offset, scanner.rest ++ more⟩ : Scanner).next = _ :=
      next_of_gap plain longer (readToken_append read solid more)
    rw [all_of_some step, List.cons_append, ← length, ← offset]
    congr 1
    apply ih
    · exact fun scanned found => formed scanned (List.mem_cons_of_mem _ found)
    · intro scanned found
      rw [length]
      exact outside scanned (List.mem_cons_of_mem _ found)
    · exact notBlank

end Scanner

/-- A text after which anything may follow: all its tokens are well formed, and its last character,
if there is one, is not blank and in none of them. -/
structure SafeEnd (text : String) : Prop where
  formed : ∀ scanned ∈ scan text, ∃ token, scanned = .ok token
  notBlank : ∀ c ∈ text.toList.getLast?, isBlank c = false
  outside : ∀ scanned ∈ scan text, ∀ place, place + 1 = text.length →
    ¬((scannedToken scanned).start ≤ place ∧ place < (scannedToken scanned).stop)

theorem SafeEnd.scan_append {first : String} (safe : SafeEnd first) (second : String) :
    scan (first ++ second) = scan first ++ (scan second).map (shifted first.length) := by
  have tiles : Tiles first.toList 0 ((scan first).map scannedToken) :=
    (Scanner.reads_ofString first).tiles
  have outside : ∀ scanned ∈ scan first, (scannedToken scanned).stop < 0 + first.toList.length := by
    intro scanned found
    have spans := tiles.spans _ (List.mem_map_of_mem found)
    have forward := spans.forward
    have within := spans.within
    have apart := safe.outside scanned found (first.toList.length - 1)
    rw [← String.length_toList] at apart
    omega
  have append := Scanner.all_append safe.formed outside safe.notBlank second.toList
  rw [scan, Scanner.ofString, String.toList_append]
  refine append.trans ?_
  rw [Scanner.all_eq_map_shifted ⟨_, second.toList⟩, String.ofList_toList, ← String.length_toList]
  congr 3
  exact Nat.zero_add _

/-! ### Tokens by themselves -/

-- A blank opens no parenthesis, so what was absent before the rest of the text is absent still.
theorem Params.Fits.before_blanks {params : Params} (fits : params.Fits rest) {blanks : List Char}
    (blank : ∀ c ∈ blanks, isBlank c) : params.Fits blanks := by
  cases params with
  | absent =>
    have none : blanks.dropWhile isBlank = [] := List.dropWhile_eq_nil_iff.2 blank
    simp [Params.Fits, none]
  | empty => exact fits
  | listed => exact fits

/-- A form that fits before some text fits at the end of one. -/
theorem Form.Fits.alone {form : Form} (fits : form.Fits rest) : form.Fits [] where
  name := fits.name
  longest := by
    rw [List.append_nil]
    exact fits.longest.of_append
  segments := fits.segments
  params := by
    apply fits.params.before_blanks
    intro c found
    rw [List.append_nil] at found
    exact fits.suffix c (Option.mem_toList.1 found)
  suffix := fits.suffix
  noSuffix := fun _ => Text.stops_nil

/-- The text of a well-formed token is all that the token needs: by itself it holds this one token and
no other, whatever stood around it. -/
theorem scan_raw (text : String) (token : Token) (found : .ok token ∈ scan text) :
    scan token.raw = [.ok { token with start := 0, stop := token.raw.length }] := by
  have read := (Scanner.reads_ofString text).readToken_of_mem found
  obtain ⟨form, fits, -, same⟩ := readToken_eq_ok_iff.1 read
  have raw : token.raw = String.ofList form.written := by rw [same]; rfl
  have alone : ({ token with start := 0, stop := token.raw.length } : Token) = form.token 0 := by
    rw [raw, String.length_ofList, same, Form.token, Form.token, Nat.zero_add]
  have whole := scan_of_fits (List.forall_mem_nil _) fits.alone
  rw [List.nil_append, List.append_nil] at whole
  rw [alone, raw, whole]
  exact congrArg _ (Scanner.all_of_empty rfl)

theorem scan_raw_quoted :
    let text := "é $a$.b  ( '$c' , $d(x) y) $e"
    let raw := "$a$.b  ( '$c' , $d(x) "
    let token : Token := ⟨2, 24, raw, some ' ', ["a$", "b"], ["$c", "$d(x"]⟩
    .ok token ∈ scan text ∧
      scan raw = [.ok ⟨0, 22, raw, some ' ', ["a$", "b"], ["$c", "$d(x"]⟩] := by
  intro text raw token
  have found : .ok token ∈ scan text := by decide +kernel
  have length : token.raw.length = 22 := by decide +kernel
  have alone := scan_raw text token found
  rw [length] at alone
  exact ⟨found, alone⟩

end StyleTokens
