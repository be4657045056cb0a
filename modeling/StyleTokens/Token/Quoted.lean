import StyleTokens.Text.Run
import StyleTokens.Token

/-! Quoted arguments. Inside the quotes a backslash makes the character after it stand for itself,
whatever it is, and is dropped; the first quoting mark without a backslash ends the argument. -/

set_option autoImplicit false

namespace StyleTokens.Quoted

open Text (length_dropWhile_le)

def isPlain (mark : Char) (c : Char) : Bool := c != mark && c != '\\'

section Progress

variable {mark c : Char} {cursor behind next : Cursor}

theorem shorter_of_mark
    (closed : (cursor.readWhile (isPlain mark)).2.accept (· == mark) = (some c, next)) :
    next.rest.length < cursor.rest.length := by
  have shorter := Cursor.shorter_of_accept closed
  rw [Cursor.rest_readWhile] at shorter
  exact Nat.lt_of_lt_of_le shorter (length_dropWhile_le ..)

theorem shorter_of_backslash
    (noMark : (cursor.readWhile (isPlain mark)).2.accept (· == mark) = (none, behind))
    (found : behind.accept (· == '\\') = (some c, next)) :
    next.rest.length < cursor.rest.length := by
  obtain ⟨-, rfl⟩ := Cursor.accept_eq_none_iff.1 noMark
  have shorter := Cursor.shorter_of_accept found
  rw [Cursor.rest_readWhile] at shorter
  exact Nat.lt_of_lt_of_le shorter (length_dropWhile_le ..)

-- Where neither a mark nor a backslash comes after a run, the text ends, so there was a run.
theorem rest_of_run
    (noMark : (cursor.readWhile (isPlain mark)).2.accept (· == mark) = (none, behind))
    (noBackslash : behind.accept (· == '\\') = (none, next)) : next.rest = [] := by
  obtain ⟨refused, rfl⟩ := Cursor.accept_eq_none_iff.1 noMark
  obtain ⟨refused', rfl⟩ := Cursor.accept_eq_none_iff.1 noBackslash
  rw [Cursor.rest_readWhile] at refused refused' ⊢
  cases ended : cursor.rest.dropWhile (isPlain mark) with
  | nil => rfl
  | cons c rest =>
    have special := List.head?_dropWhile_not (isPlain mark) cursor.rest
    rw [ended] at special refused refused'
    have notMark : (c == mark) = false := refused c rfl
    have notBackslash : (c == '\\') = false := refused' c rfl
    simp [isPlain, bne, notMark, notBackslash] at special

theorem shorter_of_run (more : ¬cursor.isAtEnd)
    (noMark : (cursor.readWhile (isPlain mark)).2.accept (· == mark) = (none, behind))
    (noBackslash : behind.accept (· == '\\') = (none, next)) :
    next.rest.length < cursor.rest.length := by
  rw [rest_of_run noMark noBackslash]
  exact List.length_pos_iff.2 (mt Cursor.isAtEnd_iff.2 more)

end Progress

/-- Reads on to the mark that closes an argument, one run of plain characters at a time. `taken` was
read before, and `escaped` says that a backslash stands right before the cursor. Gives nothing if no
mark closes the argument. -/
def readFrom (mark : Char) (taken : String) (escaped : Bool) (cursor : Cursor) :
    Option String × Cursor :=
  if _ : cursor.isAtEnd then (none, cursor)
  else
    let run := (cursor.readWhile (isPlain mark)).1
    -- an escape concerns the next character only, so a run ends it
    let escaped := escaped && run.isEmpty
    let taken := taken ++ run
    match _ : (cursor.readWhile (isPlain mark)).2.accept (· == mark) with
    | (some c, next) =>
      if escaped then readFrom mark (taken.push c) false next else (some taken, next)
    | (none, behind) =>
      match _ : behind.accept (· == '\\') with
      | (some c, next) =>
        if escaped then readFrom mark (taken.push c) false next else readFrom mark taken true next
      | (none, next) => readFrom mark taken escaped next
termination_by cursor.rest.length
decreasing_by
  · exact shorter_of_mark ‹_›
  · exact shorter_of_backslash ‹_› ‹_›
  · exact shorter_of_backslash ‹_› ‹_›
  · exact shorter_of_run ‹_› ‹_› ‹_›

def read (mark : Char) (name : String) (cursor : Cursor) : Except ScanError String × Cursor :=
  match readFrom mark "" false cursor with
  | (some content, next) => (.ok content, next)
  | (none, next) => (.error (.unterminatedString name), next)

/-- The same reader one character at a time: gives the argument and what follows the closing mark, or
nothing if no mark closes it. -/
def unescape (mark : Char) : List Char → Option (List Char × List Char)
  | [] => none
  | '\\' :: [] => none
  | '\\' :: c :: rest => (unescape mark rest).map fun (more, after) => (c :: more, after)
  | c :: rest =>
    if c = mark then some ([], rest)
    else (unescape mark rest).map fun (more, after) => (c :: more, after)

def write (mark : Char) (content : List Char) : List Char :=
  mark :: content.flatMap (fun c => if isPlain mark c then [c] else ['\\', c]) ++ [mark]

theorem readFrom_le (mark : Char) (taken : String) (escaped : Bool) (cursor : Cursor) :
    (readFrom mark taken escaped cursor).2.rest.length ≤ cursor.rest.length := by
  fun_induction readFrom mark taken escaped cursor with
  | case1 => exact Nat.le_refl _
  | case2 _ _ _ _ _ _ _ c next closed _ ih =>
    exact Nat.le_trans ih (Nat.le_of_lt (shorter_of_mark closed))
  | case3 _ _ _ _ _ _ _ c next closed => exact Nat.le_of_lt (shorter_of_mark closed)
  | case4 _ _ _ _ _ _ _ behind noMark c next found _ ih =>
    exact Nat.le_trans ih (Nat.le_of_lt (shorter_of_backslash noMark found))
  | case5 _ _ _ _ _ _ _ behind noMark c next found _ ih =>
    exact Nat.le_trans ih (Nat.le_of_lt (shorter_of_backslash noMark found))
  | case6 _ _ _ more _ _ _ behind noMark next noBackslash ih =>
    exact Nat.le_trans ih (Nat.le_of_lt (shorter_of_run more noMark noBackslash))

theorem read_le {mark : Char} {name : String} {cursor next : Cursor}
    {outcome : Except ScanError String} (found : read mark name cursor = (outcome, next)) :
    next.rest.length ≤ cursor.rest.length := by
  have shorter := readFrom_le mark "" false cursor
  unfold read at found
  split at found <;> next done => rw [done] at shorter; cases found; exact shorter

end StyleTokens.Quoted
