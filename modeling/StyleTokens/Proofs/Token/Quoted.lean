import StyleTokens.Proofs.Cursor.Position
import StyleTokens.Proofs.Text.Stretch
import StyleTokens.Token.Quoted

/-! Reading a quoted argument by runs of plain characters comes to the same as reading it one
character at a time, and both accept what is written piece by piece: a plain character by itself,
any character behind a backslash. -/

set_option autoImplicit false

namespace StyleTokens.Quoted

variable {mark c : Char} {escaped : Bool} {text rest content : List Char}

/-! ### One character at a time -/

theorem unescape_plain (notMark : c ≠ mark) (notBackslash : c ≠ '\\') (text : List Char) :
    unescape mark (c :: text) =
      (unescape mark text).map fun (more, after) => (c :: more, after) := by
  rw [unescape.eq_def]
  split
  · next same => cases same
  · next same => cases same; exact absurd rfl notBackslash
  · next same => cases same; exact absurd rfl notBackslash
  · next same => cases same; rw [if_neg notMark]

-- A backslash as the mark would end the text for one reader and begin an escape for the other.
theorem unescape_mark (other : mark ≠ '\\') (text : List Char) :
    unescape mark (mark :: text) = some ([], text) := by
  rw [unescape.eq_def]
  split
  · next same => cases same
  · next same => cases same; exact absurd rfl other
  · next same => cases same; exact absurd rfl other
  · next same => cases same; exact if_pos rfl

-- In the form in which the cases of `unescape` say that neither an escape nor a lone backslash was
-- found.
theorem ne_backslash (notAlone : c = '\\' → rest = [] → False)
    (notEscape : ∀ d tail, c = '\\' → rest = d :: tail → False) : c ≠ '\\' := by
  intro backslash
  cases rest with
  | nil => exact notAlone backslash rfl
  | cons d tail => exact notEscape d tail backslash rfl

/-! ### Run by run -/

/-- A text with the backslash that may stand right before it. -/
def pending (escaped : Bool) (text : List Char) : List Char :=
  if escaped then '\\' :: text else text

theorem unescape_pending_plain (plain : isPlain mark c) (escaped : Bool) (text : List Char) :
    unescape mark (pending escaped (c :: text)) =
      (unescape mark text).map fun (more, after) => (c :: more, after) := by
  cases escaped with
  | true => rfl
  | false =>
    obtain ⟨notMark, notBackslash⟩ : c ≠ mark ∧ c ≠ '\\' := by simpa [isPlain] using plain
    exact unescape_plain notMark notBackslash text

-- An escape concerns one character only, so a run that is not empty ends it.
theorem unescape_run {run : List Char} (plain : ∀ c ∈ run, isPlain mark c) (escaped : Bool)
    (text : List Char) :
    unescape mark (pending escaped (run ++ text)) =
      (unescape mark (pending (escaped && run.isEmpty) text)).map
        fun (more, after) => (run ++ more, after) := by
  induction run generalizing escaped with
  | nil => simp
  | cons c run ih =>
    obtain ⟨first, plain⟩ := List.forall_mem_cons.1 plain
    have later := ih plain false
    simp only [pending, Bool.false_and, Bool.false_eq_true, if_false] at later
    rw [List.cons_append, unescape_pending_plain first, later]
    simp [pending, Function.comp_def]

/-- What the run-based reader gives after `taken` if the other one comes out so. -/
def outcome (text : List Char) (taken : String) :
    Option (List Char × List Char) → Option String × Cursor
  | some (content, after) => (some (taken ++ String.ofList content), .before text after)
  | none => (none, .before text [])

theorem outcome_map (text : List Char) (taken : String) (run : List Char)
    (found : Option (List Char × List Char)) :
    outcome text taken (found.map fun (more, after) => (run ++ more, after)) =
      outcome text (taken ++ String.ofList run) found := by
  cases found <;> simp [outcome, String.ofList_append, String.append_assoc]

-- One run of the reader: `tail` is what the run leaves.
theorem outcome_run {cursor : Cursor} {tail : List Char}
    (whole : cursor.rest = cursor.rest.takeWhile (isPlain mark) ++ tail) (taken : String)
    (escaped : Bool) :
    let run := (cursor.readWhile (isPlain mark)).1
    outcome text taken (unescape mark (pending escaped cursor.rest)) =
      outcome text (taken ++ run) (unescape mark (pending (escaped && run.isEmpty) tail)) := by
  intro run
  have empty : run.isEmpty = (cursor.rest.takeWhile (isPlain mark)).isEmpty := by
    rw [Bool.eq_iff_iff, String.isEmpty_iff, List.isEmpty_iff]
    exact String.ofList_eq_empty_iff
  have plain : ∀ c ∈ cursor.rest.takeWhile (isPlain mark), isPlain mark c :=
    fun c => List.mem_takeWhile_imp
  rw [empty, whole, unescape_run plain, outcome_map, ← whole]
  rfl

-- What an escape makes stand for itself, be it a mark or a backslash.
theorem outcome_push (taken : String) (c : Char) (tail : List Char) :
    outcome text taken (unescape mark (pending true (c :: tail))) =
      outcome text (taken.push c) (unescape mark tail) := by
  have escape : unescape mark (pending true (c :: tail)) =
      (unescape mark tail).map fun (more, after) => ([c] ++ more, after) := rfl
  rw [escape, outcome_map, String.push_eq_append, String.singleton_eq_ofList]

-- The invariant of the loop: what is left, with the backslash that the flag stands for, is read on to
-- the outcome of the whole.
theorem readFrom_eq_outcome (other : mark ≠ '\\') {cursor : Cursor} (inside : cursor.Inside)
    (taken : String) (escaped : Bool) :
    readFrom mark taken escaped cursor =
      outcome cursor.text taken (unescape mark (pending escaped cursor.rest)) := by
  fun_induction readFrom mark taken escaped cursor with
  | case1 taken escaped cursor ended =>
    have none : unescape mark (pending escaped []) = none := by cases escaped <;> rfl
    have stands := inside.eq_before
    rw [Cursor.isAtEnd_iff] at ended
    rw [ended] at stands ⊢
    rw [none, outcome, ← stands]
  | case2 taken escaped cursor more run escaped' taken' c next closed pend ih =>
    obtain ⟨whole, -, text, within⟩ := Cursor.accept_readWhile closed
    rw [ih (within inside), text, outcome_run whole]
    change _ = outcome _ taken' (unescape mark (pending escaped' _))
    rw [pend, outcome_push]
    rfl
  | case3 taken escaped cursor more run escaped' taken' c next closed free =>
    obtain ⟨whole, isMark, text, within⟩ := Cursor.accept_readWhile closed
    rw [beq_iff_eq] at isMark
    subst isMark
    rw [outcome_run whole]
    change _ = outcome _ taken' (unescape c (pending escaped' _))
    rw [Bool.not_eq_true] at free
    rw [free, pending, if_neg Bool.false_ne_true, unescape_mark other, outcome, String.ofList_nil,
      String.append_empty, ← text, ← (within inside).eq_before]
  | case4 taken escaped cursor more run escaped' taken' behind noMark c next found pend ih =>
    obtain ⟨-, rfl⟩ := Cursor.accept_eq_none_iff.1 noMark
    obtain ⟨whole, -, text, within⟩ := Cursor.accept_readWhile found
    rw [ih (within inside), text, outcome_run whole]
    change _ = outcome _ taken' (unescape mark (pending escaped' _))
    rw [pend, outcome_push]
    rfl
  | case5 taken escaped cursor more run escaped' taken' behind noMark c next found free ih =>
    obtain ⟨-, rfl⟩ := Cursor.accept_eq_none_iff.1 noMark
    obtain ⟨whole, isBackslash, text, within⟩ := Cursor.accept_readWhile found
    rw [beq_iff_eq] at isBackslash
    subst isBackslash
    rw [ih (within inside), text, outcome_run whole]
    change _ = outcome _ taken' (unescape mark (pending escaped' _))
    rw [Bool.not_eq_true] at free
    rw [free]
    rfl
  | case6 taken escaped cursor more run escaped' taken' behind noMark next noBackslash ih =>
    have ended := rest_of_run noMark noBackslash
    obtain ⟨-, rfl⟩ := Cursor.accept_eq_none_iff.1 noMark
    obtain ⟨-, rfl⟩ := Cursor.accept_eq_none_iff.1 noBackslash
    have whole : cursor.rest = cursor.rest.takeWhile (isPlain mark) ++ [] := by
      rw [← ended, Cursor.rest_readWhile, List.takeWhile_append_dropWhile]
    rw [ih (inside.readWhile _), ended, outcome_run whole]
    rfl

/-! ### Piece by piece -/

/-- One character of a quoted argument as it is written. -/
inductive Piece where
  | plain (c : Char)
  | escaped (c : Char)
  deriving DecidableEq, Repr

namespace Piece

def written : Piece → List Char
  | .plain c => [c]
  | .escaped c => ['\\', c]

def char : Piece → Char
  | .plain c => c
  | .escaped c => c

/-- Neither the mark nor a backslash stands by itself. -/
def Fits (mark : Char) : Piece → Prop
  | .plain c => c ≠ mark ∧ c ≠ '\\'
  | .escaped _ => True

end Piece

def writtenBody (body : List Piece) : List Char := body.flatMap Piece.written

@[simp] theorem writtenBody_nil : writtenBody [] = [] := rfl

@[simp] theorem writtenBody_plain (body : List Piece) :
    writtenBody (.plain c :: body) = c :: writtenBody body := rfl

@[simp] theorem writtenBody_escaped (body : List Piece) :
    writtenBody (.escaped c :: body) = '\\' :: c :: writtenBody body := rfl

theorem unescape_writtenBody (other : mark ≠ '\\') {body : List Piece}
    (fits : ∀ piece ∈ body, piece.Fits mark) (rest : List Char) :
    unescape mark (writtenBody body ++ mark :: rest) = some (body.map Piece.char, rest) := by
  induction body with
  | nil => exact unescape_mark other rest
  | cons piece body ih =>
    have inner := ih fun piece found => fits piece (List.mem_cons_of_mem _ found)
    cases piece with
    | plain c =>
      obtain ⟨notMark, notBackslash⟩ := fits _ (List.mem_cons_self ..)
      rw [writtenBody_plain, List.cons_append, unescape_plain notMark notBackslash, inner]
      rfl
    | escaped c =>
      rw [writtenBody_escaped, List.cons_append, List.cons_append, unescape, inner]
      rfl

/-- A text that is read holds a body and the mark that closes it. -/
theorem writtenBody_of_unescape (closed : unescape mark text = some (content, rest)) :
    ∃ body : List Piece, (∀ piece ∈ body, piece.Fits mark) ∧
      text = writtenBody body ++ mark :: rest ∧ content = body.map Piece.char := by
  fun_induction unescape mark text generalizing content rest with
  | case1 => cases closed
  | case2 => cases closed
  | case3 c text ih =>
    obtain ⟨⟨more, after⟩, inner, same⟩ := Option.map_eq_some_iff.1 closed
    cases same
    obtain ⟨body, fits, rfl, rfl⟩ := ih inner
    exact ⟨.escaped c :: body, List.forall_mem_cons.2 ⟨trivial, fits⟩, rfl, rfl⟩
  | case4 text => cases closed; exact ⟨[], by simp, rfl, rfl⟩
  | case5 c text notAlone notEscape notMark ih =>
    obtain ⟨⟨more, after⟩, inner, same⟩ := Option.map_eq_some_iff.1 closed
    cases same
    obtain ⟨body, fits, rfl, rfl⟩ := ih inner
    have notBackslash := ne_backslash notAlone notEscape
    exact ⟨.plain c :: body, List.forall_mem_cons.2 ⟨⟨notMark, notBackslash⟩, fits⟩, rfl, rfl⟩

/-- A text that is read has one body. -/
theorem writtenBody_unique (other : mark ≠ '\\') {body body' : List Piece} {rest' : List Char}
    (fits : ∀ piece ∈ body, piece.Fits mark) (fits' : ∀ piece ∈ body', piece.Fits mark)
    (same : writtenBody body ++ mark :: rest = writtenBody body' ++ mark :: rest') :
    body = body' ∧ rest = rest' := by
  -- piece by piece, since the first character tells a plain piece from an escape and from the mark
  induction body generalizing body' with
  | nil =>
    cases body' with
    | nil => exact ⟨rfl, (List.cons.inj same).2⟩
    | cons piece' body' =>
      have fits := fits' _ (List.mem_cons_self ..)
      cases piece' with
      | plain c => exact absurd (List.cons.inj same).1.symm fits.1
      | escaped c => exact absurd (List.cons.inj same).1 other
  | cons piece body ih =>
    obtain ⟨fit, inner⟩ := List.forall_mem_cons.1 fits
    cases body' with
    | nil =>
      cases piece with
      | plain c => exact absurd (List.cons.inj same).1 fit.1
      | escaped c => exact absurd (List.cons.inj same).1.symm other
    | cons piece' body' =>
      obtain ⟨fit', inner'⟩ := List.forall_mem_cons.1 fits'
      cases piece with
      | plain c =>
        cases piece' with
        | plain c' =>
          obtain ⟨rfl, tail⟩ := List.cons.inj same
          obtain ⟨rfl, rfl⟩ := ih inner inner' tail
          exact ⟨rfl, rfl⟩
        | escaped c' => exact absurd (List.cons.inj same).1 fit.2
      | escaped c =>
        cases piece' with
        | plain c' => exact absurd (List.cons.inj same).1.symm fit'.2
        | escaped c' =>
          obtain ⟨rfl, tail⟩ := List.cons.inj (List.cons.inj same).2
          obtain ⟨rfl, rfl⟩ := ih inner inner' tail
          exact ⟨rfl, rfl⟩

/-! ### One reader for the other -/

theorem read_eq (other : mark ≠ '\\') (name : String) {cursor : Cursor} (inside : cursor.Inside) :
    read mark name cursor = match unescape mark cursor.rest with
      | some (content, after) => (.ok (String.ofList content), .before cursor.text after)
      | none => (.error (.unterminatedString name), .before cursor.text []) := by
  have here : pending false cursor.rest = cursor.rest := rfl
  rw [read, readFrom_eq_outcome other inside, here]
  cases unescape mark cursor.rest with
  | none => rfl
  | some found => simp [outcome]

theorem rest_before_of_unescape {cursor : Cursor} (inside : cursor.Inside)
    (closed : unescape mark cursor.rest = some (content, rest)) :
    (Cursor.before cursor.text rest).rest = rest := by
  obtain ⟨body, -, whole, -⟩ := writtenBody_of_unescape closed
  have whole : cursor.rest = (writtenBody body ++ [mark]) ++ rest := by simpa using whole
  rw [← inside.advance_eq_before whole, Cursor.rest_advance_of_append whole]

theorem unescape_eq_none_iff (other : mark ≠ '\\') : unescape mark text = none ↔
    ∀ body after, (∀ piece ∈ body, Piece.Fits mark piece) →
      text ≠ writtenBody body ++ mark :: after := by
  constructor
  · rintro none body after fits rfl
    rw [unescape_writtenBody other fits] at none
    cases none
  · intro unclosed
    cases found : unescape mark text with
    | none => rfl
    | some closed =>
      obtain ⟨body, fits, whole, -⟩ := writtenBody_of_unescape found
      exact absurd whole (unclosed body _ fits)

/-- An argument that is read by runs, with a flag for the escape that a run may leave behind, comes out
as if it were read one character at a time. If some mark without a backslash closes the argument, the
cursor comes to stand behind the first such mark, and the argument is all before it, with each
escaped character by itself. If none does, also where the text ends with a lone backslash, the cursor
comes to stand at the end of the text. -/
theorem read_unescapes (other : mark ≠ '\\') (name : String) {cursor : Cursor}
    (inside : cursor.Inside) :
    (read mark name cursor = match unescape mark cursor.rest with
      | some (content, after) =>
        (.ok (String.ofList content), ⟨cursor.text, cursor.text.length - after.length⟩)
      | none => (.error (.unterminatedString name), ⟨cursor.text, cursor.text.length⟩)) ∧
    (∀ content next, read mark name cursor = (.ok content, next) ↔
      ∃ body : List Piece, (∀ piece ∈ body, piece.Fits mark) ∧
        cursor.rest = writtenBody body ++ mark :: next.rest ∧
        content = String.ofList (body.map Piece.char) ∧
        next = cursor.advance ((writtenBody body).length + 1)) ∧
    ∀ error next, read mark name cursor = (.error error, next) ↔
      (∀ body after, (∀ piece ∈ body, Piece.Fits mark piece) →
        cursor.rest ≠ writtenBody body ++ mark :: after) ∧
      error = .unterminatedString name ∧ next = ⟨cursor.text, cursor.text.length⟩ := by
  have behind : ∀ {body : List Piece} {after : List Char},
      cursor.rest = writtenBody body ++ mark :: after →
        cursor.advance ((writtenBody body).length + 1) = .before cursor.text after ∧
          (cursor.advance ((writtenBody body).length + 1)).rest = after := by
    intro body after whole
    have whole : cursor.rest = (writtenBody body ++ [mark]) ++ after := by simpa using whole
    have moved := inside.advance_eq_before whole
    have left := Cursor.rest_advance_of_append whole
    rw [List.length_append] at moved left
    exact ⟨moved, left⟩
  refine ⟨read_eq other name inside, ?_, ?_⟩
  · intro content next
    rw [read_eq other name inside]
    constructor
    · intro read
      cases found : unescape mark cursor.rest with
      | none => rw [found] at read; cases read
      | some result =>
        obtain ⟨chars, after⟩ := result
        rw [found] at read
        cases read
        obtain ⟨body, fits, whole, rfl⟩ := writtenBody_of_unescape found
        obtain ⟨moved, left⟩ := behind whole
        rw [← moved, left]
        exact ⟨body, fits, whole, rfl, rfl⟩
    · rintro ⟨body, fits, whole, rfl, same⟩
      have closed := unescape_writtenBody other fits next.rest
      rw [← whole] at closed
      rw [closed]
      exact congrArg _ ((behind whole).1.symm.trans same.symm)
  · intro error next
    rw [read_eq other name inside, ← unescape_eq_none_iff other]
    cases unescape mark cursor.rest with
    | none => simp [Cursor.before_nil, eq_comm]
    | some found => simp

theorem read_unescapes_quotes :
    let closed : Cursor := ⟨"$f('it\\'s \\\\\\n' , x)".toList, 4⟩
    let lone : Cursor := ⟨"$f(\"'\\\"\\".toList, 4⟩
    '\'' ≠ '\\' ∧ closed.Inside ∧
      read '\'' "f" closed = (.ok "it's \\n", ⟨closed.text, 15⟩) ∧
    '"' ≠ '\\' ∧ lone.Inside ∧
      read '"' "f" lone = (.error (.unterminatedString "f"), ⟨lone.text, 8⟩) := by
  intro closed lone
  have other : '\'' ≠ '\\' := by decide
  have inside : closed.Inside := by decide +kernel
  have other' : '"' ≠ '\\' := by decide
  have inside' : lone.Inside := by decide +kernel
  refine ⟨other, inside, ?_, other', inside', ?_⟩
  · rw [(read_unescapes other "f" inside).1]
    decide +kernel
  · rw [(read_unescapes other' "f" inside').1]
    decide +kernel

end StyleTokens.Quoted
