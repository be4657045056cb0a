import StyleTokens.Proofs.Token.Tiling

/-! A scan has no memory: what it finds from a place on depends on the text from there on, and the
place itself only moves what is found. So the tokens after any other, malformed or not, are the
tokens of the text that follows it. -/

set_option autoImplicit false

namespace StyleTokens

variable {text : List Char}

/-- The same token so many characters further on. -/
def Token.shift (count : Nat) (token : Token) : Token :=
  { token with start := token.start + count, stop := token.stop + count }

def ScanFailure.shift (count : Nat) (failure : ScanFailure) : ScanFailure :=
  { failure with token := failure.token.shift count }

/-- What was scanned, so many characters further on. -/
def shifted (count : Nat) : Except ScanFailure Token → Except ScanFailure Token
  | .ok token => .ok (token.shift count)
  | .error failure => .error (failure.shift count)

@[simp] theorem scannedToken_shifted (count : Nat) (scanned : Except ScanFailure Token) :
    scannedToken (shifted count scanned) = (scannedToken scanned).shift count := by
  cases scanned <;> rfl

theorem Form.token_add (form : Form) (start count : Nat) :
    form.token (start + count) = (form.token start).shift count := by
  simp only [Form.token, Token.shift, Token.mk.injEq, and_true, true_and]
  omega

theorem Token.ofName_add (start count : Nat) (name : List Char) :
    Token.ofName (start + count) name = (Token.ofName start name).shift count := by
  simp only [Token.ofName, Token.shift, Token.mk.injEq, and_true, true_and]
  omega

theorem readToken_add (offset count : Nat) (text : List Char) :
    readToken (offset + count) text =
      (shifted count (readToken offset text).1, (readToken offset text).2) := by
  rcases readToken_cases offset text with ⟨form, rest, fits, rfl, same⟩ | ⟨error, failed, same⟩
  · rw [readToken_written fits, same, form.token_add]
    rfl
  · rw [readToken_of_error _ failed, same, Token.ofName_add]
    rfl

namespace Scanner

variable {scanner : Scanner} {result : Except ScanFailure Token}

def shift (count : Nat) (scanner : Scanner) : Scanner := ⟨scanner.offset + count, scanner.rest⟩

theorem next_shift (count : Nat) (scanner : Scanner) :
    (scanner.shift count).next =
      (scanner.next.1.map (shifted count), scanner.next.2.shift count) := by
  rcases scanner.next_inversion with
    ⟨plain, step⟩ | ⟨gap, tail, result, rest, plain, whole, read, step⟩
  · have ended : (scanner.shift count).next = _ := next_of_plain plain
    rw [step, ended]
    simp only [shift, Option.map_none, Prod.mk.injEq, mk.injEq, and_true, true_and]
    omega
  · have moved : readToken (scanner.offset + count + gap.length) tail =
        (shifted count result, rest) := by
      rw [Nat.add_right_comm, readToken_add, read]
    have found : (scanner.shift count).next = _ := next_of_gap plain whole moved
    rw [step, found, scannedToken_shifted]
    rfl

theorem all_shift (count : Nat) (scanner : Scanner) :
    (scanner.shift count).all = scanner.all.map (shifted count) := by
  have step := next_shift count scanner
  fun_induction Scanner.all scanner with
  | case1 scanner next ended =>
    rw [ended] at step
    exact all_of_none step
  | case2 scanner result next found ih =>
    rw [found] at step
    rw [all_of_some step, ih (next_shift count next), List.map_cons]

/-- A scan reads what follows the place to which it has come as a text of its own. -/
theorem all_eq_map_shifted (scanner : Scanner) :
    scanner.all = (scan (String.ofList scanner.rest)).map (shifted scanner.offset) := by
  rw [scan, ← all_shift, shift, ofString, String.toList_ofList, Nat.zero_add]

theorem all_congr {other : Scanner} (same : scanner.next = other.next) :
    scanner.all = other.all := by
  cases step : other.next with
  | mk result next =>
    cases result with
    | none => rw [all_of_none (same.trans step), all_of_none step]
    | some result => rw [all_of_some (same.trans step), all_of_some step]

-- Passing over the stretch costs no call, so both scans take the same first step.
theorem all_of_gap {gap : List Char} (plain : ∀ c ∈ gap, (c != '$') = true) (offset : Nat)
    (rest : List Char) :
    (⟨offset, gap ++ rest⟩ : Scanner).all = (⟨offset + gap.length, rest⟩ : Scanner).all := by
  apply all_congr
  rcases next_inversion ⟨offset + gap.length, rest⟩ with
    ⟨more, step⟩ | ⟨gap', tail, result, after, more, rfl, read, step⟩
  · have all : ∀ c ∈ gap ++ rest, (c != '$') = true := List.forall_mem_append.2 ⟨plain, more⟩
    have ended : (⟨offset, gap ++ rest⟩ : Scanner).next = _ := next_of_plain all
    rw [step, ended, List.length_append, Nat.add_assoc]
  · rw [step]
    apply next_of_gap (List.forall_mem_append.2 ⟨plain, more⟩) (List.append_assoc ..).symm
    rw [List.length_append, ← Nat.add_assoc]
    exact read

theorem Reads.readToken_of_mem (reads : scanner.Reads text) (found : result ∈ scanner.all) :
    readToken (scannedToken result).start (text.drop ((scannedToken result).start + 1)) =
      (result, text.drop (scannedToken result).stop) := by
  fun_induction Scanner.all scanner with
  | case1 => cases found
  | case2 scanner first next step ih =>
    have later := reads.next
    rw [step] at later
    rcases List.mem_cons.1 found with rfl | found
    · obtain ⟨gap, tail, -, whole, read, stop⟩ := gap_of_next step
      obtain ⟨-, -, start, -, -⟩ := readToken_span read
      have opened : text.drop (scanner.offset + gap.length + 1) = tail := by
        rw [Nat.add_assoc, ← List.drop_drop, ← reads.rest, whole, ← List.drop_drop, List.drop_left]
        rfl
      rw [start, opened, read, later.rest, stop]
    · exact ih later found

/-- What is found after a token is what a scan from the end of that token finds. -/
theorem Reads.drop_all (reads : scanner.Reads text) {k : Nat}
    (found : scanner.all[k]? = some result) :
    scanner.all.drop (k + 1) =
      (⟨(scannedToken result).stop, text.drop (scannedToken result).stop⟩ : Scanner).all := by
  induction k generalizing scanner with
  | zero =>
    rcases reads.next_cases with ⟨-, step⟩ | ⟨first, -, -, step⟩
    · rw [all_of_none step] at found
      cases found
    · rw [all_of_some step] at found ⊢
      cases found
      rfl
  | succ k ih =>
    have later := reads.next
    rcases reads.next_cases with ⟨-, step⟩ | ⟨first, -, -, step⟩
    · rw [all_of_none step] at found
      cases found
    · rw [step] at later
      rw [all_of_some step] at found ⊢
      exact ih later found

end Scanner

theorem plain_of_not_mem {before : List Char} (none : '$' ∉ before) :
    ∀ c ∈ before, (c != '$') = true := by
  intro c found
  simpa using ne_of_mem_of_not_mem found none

/-- A form that fits the text after it is read where no `$` comes before it. -/
theorem scan_of_fits {form : Form} {before rest : List Char}
    (plain : ∀ c ∈ before, (c != '$') = true) (fits : form.Fits rest) :
    scan (String.ofList (before ++ form.written ++ rest)) =
      .ok (form.token before.length) ::
        (⟨before.length + form.written.length, rest⟩ : Scanner).all := by
  have whole : before ++ form.written ++ rest =
      before ++ '$' :: (form.name ++ (form.tail ++ rest)) := by
    simp [Form.written]
  have step : (⟨0, before ++ form.written ++ rest⟩ : Scanner).next = _ :=
    Scanner.next_of_gap plain whole (readToken_written fits _)
  rw [scan, Scanner.ofString, String.toList_ofList, Scanner.all_of_some step, Nat.zero_add]
  rfl

/-- A token that is given up ends where the longest name after its `$` does. -/
theorem stop_of_readToken_error {offset : Nat} {rest : List Char} {failure : ScanFailure}
    (read : readToken offset text = (.error failure, rest)) :
    failure.token.stop = offset + 1 + (text.takeWhile isNameChar).length := by
  rcases readToken_cases offset text with ⟨form, rest', -, -, same⟩ | ⟨error, -, same⟩
  · rw [same] at read
    cases read
  · rw [same] at read
    cases read
    rfl

/-- After each token, malformed or not, a scan goes on as if the text began at the end of the token,
and the end of a malformed one is the end of its name. Text without `$` before all tokens only moves
them. -/
theorem scan_resumes (text : String) :
    (∀ k scanned, (scan text)[k]? = some scanned →
      let stop := (scannedToken scanned).stop
      (scan text).drop (k + 1) =
          (scan (String.ofList (text.toList.drop stop))).map (shifted stop) ∧
        ∀ failure, scanned = .error failure →
          text.toList[failure.token.start]? = some '$' ∧
            stop = failure.token.start + 1 +
              ((text.toList.drop (failure.token.start + 1)).takeWhile isNameChar).length) ∧
      ∀ before : String, '$' ∉ before.toList →
        scan (before ++ text) = (scan text).map (shifted before.length) := by
  have reads := Scanner.reads_ofString text
  refine ⟨?_, ?_⟩
  · intro k scanned found stop
    have inside := List.mem_of_getElem? found
    refine ⟨?_, ?_⟩
    · rw [← Scanner.all_eq_map_shifted ⟨stop, text.toList.drop stop⟩]
      exact reads.drop_all found
    · rintro failure rfl
      exact ⟨(reads.tiles.spans _ (List.mem_map_of_mem inside)).mark,
        stop_of_readToken_error (reads.readToken_of_mem inside)⟩
  · intro before none
    rw [scan, Scanner.ofString, String.toList_append, Scanner.all_of_gap (plain_of_not_mem none),
      Nat.zero_add, Scanner.all_eq_map_shifted, String.ofList_toList, String.length_toList]

theorem scan_unterminated :
    let text := "$a.b $c('x, $d;"
    let failure : ScanFailure := ⟨⟨5, 7, "$c", none, ["c"], []⟩, .unterminatedString "c"⟩
    (scan text)[1]? = some (.error failure) ∧
      (scan text).drop 2 = (scan "('x, $d;").map (shifted 7) ∧
      '$' ∉ "('x, ".toList ∧
      scan "('x, $d;" = (scan "$d;").map (shifted 5) := by
  intro text failure
  have found : (scan text)[1]? = some (.error failure) := by decide +kernel
  have rest : String.ofList (text.toList.drop failure.token.stop) = "('x, $d;" := by decide +kernel
  have none : '$' ∉ "('x, ".toList := by decide
  have after := ((scan_resumes text).1 1 (.error failure) found).1
  have moved := (scan_resumes "$d;").2 "('x, " none
  rw [scannedToken, rest] at after
  exact ⟨found, after, none, moved⟩

end StyleTokens
