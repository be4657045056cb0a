import Mathlib.Data.Nat.Find
import StyleTokens.Proofs.Token.Acceptance

/-! One step of a scan. A scan that has come to some place of a text goes on to the next `$`; what
it finds there is a token if a form of the grammar opens the text from there on, and the end of the
form is the place that the scan comes to. -/

set_option autoImplicit false

namespace StyleTokens

open Text (isBlank)

/-- The token that was scanned, well formed or not. -/
def scannedToken : Except ScanFailure Token → Token
  | .ok token => token
  | .error failure => failure.token

/-- A text that starts with a form of the grammar and goes on with `rest`. -/
def Form.Opens (form : Form) (text rest : List Char) : Prop :=
  text = form.written ++ rest ∧ form.Fits rest

/-- The stretch of a text between two places. -/
def stretch (text : List Char) (start stop : Nat) : List Char := (text.drop start).take (stop - start)

/-- The first `$` of a text from `offset` on stands at `place`. -/
structure NextMark (text : List Char) (offset place : Nat) : Prop where
  ahead : offset ≤ place
  mark : text[place]? = some '$'
  first : ∀ i, i < place → offset ≤ i → text[i]? ≠ some '$'

/-- A token in its place in a text: it begins with a `$` and is made of the characters from its
start up to its stop. -/
structure Token.Spans (text : List Char) (token : Token) : Prop where
  forward : token.start < token.stop
  within : token.stop ≤ text.length
  mark : text[token.start]? = some '$'
  raw : token.raw = String.ofList (stretch text token.start token.stop)

-- This holds on every exit of the reader: a token that is given up spans its name alone, and the
-- reading goes on after the name.
theorem readToken_span {offset : Nat} {text rest : List Char} {result : Except ScanFailure Token}
    (read : readToken offset text = (result, rest)) :
    ∃ body, text = body ++ rest ∧ (scannedToken result).start = offset ∧
      (scannedToken result).stop = offset + 1 + body.length ∧
      (scannedToken result).raw = String.ofList ('$' :: body) := by
  rcases readToken_cases offset text with ⟨form, rest', -, whole, same⟩ | ⟨error, -, same⟩
  · rw [same] at read
    cases read
    refine ⟨form.name ++ form.tail, by simpa using whole, rfl, ?_, rfl⟩
    simp only [scannedToken, Form.token, Form.written, List.length_cons]
    omega
  · rw [same] at read
    cases read
    exact ⟨_, List.takeWhile_append_dropWhile.symm, rfl, rfl, rfl⟩

theorem spans_of_readToken {text rest : List Char} {place : Nat}
    {result : Except ScanFailure Token} (mark : text[place]? = some '$')
    (read : readToken place (text.drop (place + 1)) = (result, rest)) :
    (scannedToken result).start = place ∧ (scannedToken result).Spans text ∧
      rest = text.drop (scannedToken result).stop := by
  obtain ⟨body, consumed, start, stop, raw⟩ := readToken_span read
  obtain ⟨inside, here⟩ := List.getElem?_eq_some_iff.1 mark
  have length := congrArg List.length consumed
  rw [List.length_drop, List.length_append] at length
  have opened := List.drop_eq_getElem_cons inside
  rw [here, consumed] at opened
  refine ⟨start, ⟨by omega, by omega, by rw [start, mark], ?_⟩, ?_⟩
  · have count : (scannedToken result).stop - place = ('$' :: body).length := by
      rw [List.length_cons]
      omega
    rw [raw, start, stretch, count, opened, ← List.cons_append, List.take_left]
  · rw [stop, ← List.drop_drop, consumed, List.drop_left]

namespace Scanner

variable {text : List Char} {scanner : Scanner} {place : Nat}

/-- The scan after so many calls of `next`. -/
def after (scanner : Scanner) : Nat → Scanner
  | 0 => scanner
  | calls + 1 => scanner.next.2.after calls

/-- A scan of a text: what is left to read is what follows its offset. -/
structure Reads (text : List Char) (scanner : Scanner) : Prop where
  within : scanner.offset ≤ text.length
  rest : scanner.rest = text.drop scanner.offset

theorem reads_ofString (text : String) : (ofString text).Reads text.toList :=
  ⟨Nat.zero_le _, rfl⟩

theorem next_of_plain (plain : ∀ c ∈ scanner.rest, (c != '$') = true) :
    scanner.next = (none, ⟨scanner.offset + scanner.rest.length, []⟩) := by
  unfold next
  simp only [List.takeWhile_eq_self_iff.2 plain, List.dropWhile_eq_nil_iff.2 plain]

theorem next_of_gap {gap tail rest : List Char} {result : Except ScanFailure Token}
    (plain : ∀ c ∈ gap, (c != '$') = true) (whole : scanner.rest = gap ++ '$' :: tail)
    (read : readToken (scanner.offset + gap.length) tail = (result, rest)) :
    scanner.next = (some result, ⟨(scannedToken result).stop, rest⟩) := by
  obtain ⟨body, consumed, -, stop, -⟩ := readToken_span read
  have mark : Text.Stops (· != '$') ('$' :: tail) := by simp
  unfold next
  simp only [whole, Text.takeWhile_append_of_stops plain mark,
    Text.dropWhile_append_of_stops plain mark, read, stop, Text.length_sub_of_append consumed]

-- The converse of both: either no `$` is left, or the next one ends a run of other characters.
theorem next_inversion (scanner : Scanner) :
    (∀ c ∈ scanner.rest, (c != '$') = true) ∧
        scanner.next = (none, ⟨scanner.offset + scanner.rest.length, []⟩) ∨
      ∃ gap tail result rest, (∀ c ∈ gap, (c != '$') = true) ∧
        scanner.rest = gap ++ '$' :: tail ∧
        readToken (scanner.offset + gap.length) tail = (result, rest) ∧
        scanner.next = (some result, ⟨(scannedToken result).stop, rest⟩) := by
  obtain ⟨gap, plain, whole⟩ := Text.exists_run (· != '$') scanner.rest
  have stops := Text.stops_dropWhile (· != '$') scanner.rest
  cases opened : scanner.rest.dropWhile (· != '$') with
  | nil =>
    rw [opened, List.append_nil] at whole
    have plain : ∀ c ∈ scanner.rest, (c != '$') = true := whole ▸ plain
    exact .inl ⟨plain, next_of_plain plain⟩
  | cons c tail =>
    rw [opened] at whole stops
    obtain rfl : c = '$' := by simpa using stops
    cases read : readToken (scanner.offset + gap.length) tail with
    | mk result rest =>
      exact .inr ⟨gap, tail, result, rest, plain, whole, read, next_of_gap plain whole read⟩

theorem plain_of_next {next : Scanner} (ended : scanner.next = (none, next)) :
    ∀ c ∈ scanner.rest, (c != '$') = true := by
  rcases scanner.next_inversion with ⟨plain, -⟩ | ⟨gap, tail, result, rest, -, -, -, step⟩
  · exact plain
  · rw [step] at ended
    cases ended

theorem gap_of_next {next : Scanner} {result : Except ScanFailure Token}
    (found : scanner.next = (some result, next)) :
    ∃ gap tail, (∀ c ∈ gap, (c != '$') = true) ∧ scanner.rest = gap ++ '$' :: tail ∧
      readToken (scanner.offset + gap.length) tail = (result, next.rest) ∧
      next.offset = (scannedToken result).stop := by
  rcases scanner.next_inversion with ⟨-, step⟩ | ⟨gap, tail, result', rest, plain, whole, read, step⟩
  · rw [step] at found
    cases found
  · rw [step] at found
    cases found
    exact ⟨gap, tail, plain, whole, read, rfl⟩

theorem Reads.next_of_no_mark (reads : scanner.Reads text)
    (none : ∀ i, scanner.offset ≤ i → text[i]? ≠ some '$') :
    scanner.next = (.none, ⟨text.length, []⟩) := by
  have plain : ∀ c ∈ scanner.rest, (c != '$') = true := by
    intro c found
    rw [reads.rest] at found
    obtain ⟨i, same⟩ := List.mem_iff_getElem?.1 found
    rw [List.getElem?_drop] at same
    have other := none (scanner.offset + i) (Nat.le_add_right ..)
    rw [same] at other
    simpa using other
  have length : scanner.offset + scanner.rest.length = text.length := by
    rw [reads.rest, List.length_drop]
    have := reads.within
    omega
  rw [next_of_plain plain, length]

theorem Reads.rest_of_nextMark (reads : scanner.Reads text)
    (starts : NextMark text scanner.offset place) :
    ∃ gap, (∀ c ∈ gap, (c != '$') = true) ∧ scanner.offset + gap.length = place ∧
      scanner.rest = gap ++ '$' :: text.drop (place + 1) := by
  obtain ⟨inside, mark⟩ := List.getElem?_eq_some_iff.1 starts.mark
  have ahead := starts.ahead
  refine ⟨(text.drop scanner.offset).take (place - scanner.offset), ?_, ?_, ?_⟩
  · intro c found
    obtain ⟨i, same⟩ := List.mem_iff_getElem?.1 found
    rw [List.getElem?_take] at same
    split at same
    · rw [List.getElem?_drop] at same
      have other := starts.first (scanner.offset + i) (by omega) (Nat.le_add_right ..)
      rw [same] at other
      simpa using other
    · cases same
  · rw [List.length_take, List.length_drop]
    omega
  · have opened := List.drop_eq_getElem_cons inside
    rw [mark] at opened
    have skipped : (text.drop scanner.offset).drop (place - scanner.offset) = text.drop place := by
      rw [List.drop_drop]
      congr 1
      omega
    rw [reads.rest, ← opened, ← skipped, List.take_append_drop]

theorem Reads.next_of_nextMark (reads : scanner.Reads text)
    (starts : NextMark text scanner.offset place) {result : Except ScanFailure Token} {rest : List Char}
    (read : readToken place (text.drop (place + 1)) = (result, rest)) :
    scanner.next = (some result, ⟨(scannedToken result).stop, rest⟩) := by
  obtain ⟨gap, plain, rfl, whole⟩ := reads.rest_of_nextMark starts
  exact next_of_gap plain whole read

/-- A scan of a text ends there, or finds a token and goes on from its end. -/
theorem Reads.next_cases (reads : scanner.Reads text) :
    ((∀ i, scanner.offset ≤ i → text[i]? ≠ some '$') ∧ scanner.next = (none, ⟨text.length, []⟩)) ∨
      ∃ result, NextMark text scanner.offset (scannedToken result).start ∧
        (scannedToken result).Spans text ∧
        scanner.next = (some result, ⟨(scannedToken result).stop,
          text.drop (scannedToken result).stop⟩) := by
  by_cases found : ∃ i, scanner.offset ≤ i ∧ text[i]? = some '$'
  · have first : NextMark text scanner.offset (Nat.find found) :=
      ⟨(Nat.find_spec found).1, (Nat.find_spec found).2,
        fun i before ahead mark => Nat.find_min found before ⟨ahead, mark⟩⟩
    cases read : readToken (Nat.find found) (text.drop (Nat.find found + 1)) with
    | mk result rest =>
      obtain ⟨start, spans, rfl⟩ := spans_of_readToken first.mark read
      refine .inr ⟨result, ?_, spans, reads.next_of_nextMark first read⟩
      rw [start]
      exact first
  · have none : ∀ i, scanner.offset ≤ i → text[i]? ≠ some '$' :=
      fun i ahead mark => found ⟨i, ahead, mark⟩
    exact .inl ⟨none, reads.next_of_no_mark none⟩

theorem Reads.next (reads : scanner.Reads text) : scanner.next.2.Reads text := by
  rcases reads.next_cases with ⟨-, step⟩ | ⟨result, -, spans, step⟩
  · rw [step]
    exact ⟨Nat.le_refl _, List.drop_length.symm⟩
  · rw [step]
    exact ⟨spans.within, rfl⟩

theorem Reads.after (reads : scanner.Reads text) (calls : Nat) :
    (scanner.after calls).Reads text := by
  induction calls generalizing scanner with
  | zero => exact reads
  | succ calls ih => exact ih reads.next

end Scanner

/-! ### Tokens and forms -/

theorem opens_cons_iff {form : Form} {text rest : List Char} :
    form.Opens ('$' :: text) rest ↔ form.Fits rest ∧ text = form.name ++ (form.tail ++ rest) := by
  rw [Form.Opens, Form.written, List.cons_append, List.append_assoc, List.cons.injEq, and_comm]
  simp

theorem Form.dotted_token (form : Form) (start : Nat) :
    (form.token start).dotted = String.ofList form.name := by
  have segments : ((form.name.splitOn '.').map String.ofList).map String.toList =
      form.name.splitOn '.' := by
    simp [Function.comp_def]
  rw [← String.toList_inj, Token.dotted, Form.token, String.toList_intercalate, segments]
  exact (List.intercalate_splitOn '.').trans String.toList_ofList.symm

theorem Form.not_mem_path_token (form : Form) (start : Nat) :
    ∀ segment ∈ (form.token start).path, '.' ∉ segment.toList := by
  intro segment found
  obtain ⟨part, inside, rfl⟩ := List.mem_map.1 found
  rw [String.toList_ofList]
  exact Text.not_mem_of_mem_splitOn inside

/-- Where a scan finds the next `$`, it reads a token exactly if a form of the grammar opens the
text from there on. There is one such form then, and the token is what it stands for. -/
theorem next_ok_iff_opens (text : String) (calls place : Nat)
    (starts : NextMark text.toList ((Scanner.ofString text).after calls).offset place) :
    ∃ result, ((Scanner.ofString text).after calls).next.1 = some result ∧
      ((∃ token, result = .ok token) ↔
        ∃ form rest, Form.Opens form (text.toList.drop place) rest) ∧
      ∀ token, result = .ok token →
        ∃ form rest, Form.Opens form (text.toList.drop place) rest ∧
          (∀ form' rest', Form.Opens form' (text.toList.drop place) rest' →
            form' = form ∧ rest' = rest) ∧
          token = form.token place ∧ token.dotted = String.ofList form.name ∧
          ∀ segment ∈ token.path, '.' ∉ segment.toList := by
  have reads := (Scanner.reads_ofString text).after calls
  obtain ⟨inside, mark⟩ := List.getElem?_eq_some_iff.1 starts.mark
  have opened := List.drop_eq_getElem_cons inside
  rw [mark] at opened
  cases read : readToken place (text.toList.drop (place + 1)) with
  | mk result rest =>
    refine ⟨result, congrArg Prod.fst (reads.next_of_nextMark starts read), ⟨?_, ?_⟩, ?_⟩
    · rintro ⟨token, rfl⟩
      obtain ⟨form, fits, whole, -⟩ := readToken_eq_ok_iff.1 read
      exact ⟨form, rest, opened ▸ opens_cons_iff.2 ⟨fits, whole⟩⟩
    · rintro ⟨form, rest', opens⟩
      obtain ⟨fits, whole⟩ := opens_cons_iff.1 (opened ▸ opens)
      rw [readToken_eq_ok_iff.2 ⟨form, fits, whole, rfl⟩] at read
      exact ⟨_, (Prod.mk.inj read).1.symm⟩
    · rintro token rfl
      obtain ⟨form, fits, whole, rfl⟩ := readToken_eq_ok_iff.1 read
      have opens : form.Opens (text.toList.drop place) rest :=
        opened ▸ opens_cons_iff.2 ⟨fits, whole⟩
      refine ⟨form, rest, opens, ?_, rfl, form.dotted_token place, form.not_mem_path_token place⟩
      intro form' rest' opens'
      exact opens'.2.unique opens.2 (opens'.1.symm.trans opens.1)

def sampleForm : Form where
  name := ['f', '.', 'a']
  params := .listed [' '] (.quoted [' '] '\'' [.plain 'i', .plain 't', .escaped '\'', .plain 's'] [' '])
    [.bare [] ['b', ' ']]
  suffix := some ' '

theorem sampleForm_fits : sampleForm.Fits ['y'] where
  name := List.all_eq_true.1 (by decide)
  longest := Text.stops_cons.2 (by decide)
  segments := by decide
  params := by
    have blank : ∀ c ∈ [' '], isBlank c := List.all_eq_true.1 (by decide)
    refine ⟨blank, ?_⟩
    rintro item (_ | ⟨_, _ | ⟨_, ⟨⟩⟩⟩)
    · refine ⟨blank, by decide, ?_, blank⟩
      simp [Quoted.Piece.Fits]
    · refine ⟨by simp, by decide, by simp [EndsItem], ?_⟩
      rintro c ⟨⟩
      decide
  suffix := by
    rintro c ⟨⟩
    decide
  noSuffix := by rintro ⟨⟩

theorem next_sampleForm :
    let text := "x $f.a ( 'it\\'s' ,b ) y"
    NextMark text.toList (Scanner.ofString text).offset 2 ∧
      ∃ token, (Scanner.ofString text).next.1 = some (.ok token) ∧ token.path = ["f", "a"] ∧
        token.args = ["it's", "b "] := by
  intro text
  have starts : NextMark text.toList (Scanner.ofString text).offset 2 :=
    ⟨by decide, by decide, by decide⟩
  obtain ⟨result, found, accepted, forms⟩ := next_ok_iff_opens text 0 2 starts
  have opens : sampleForm.Opens (text.toList.drop 2) ['y'] := ⟨by decide, sampleForm_fits⟩
  obtain ⟨token, rfl⟩ := accepted.2 ⟨sampleForm, ['y'], opens⟩
  obtain ⟨form, rest, -, unique, rfl, -, -⟩ := forms token rfl
  obtain ⟨rfl, rfl⟩ := unique sampleForm ['y'] opens
  exact ⟨starts, _, found, by decide, by decide⟩

end StyleTokens
