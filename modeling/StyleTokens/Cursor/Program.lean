import StyleTokens.Cursor

/-! Sequences of cursor operations. A run keeps the cursor together with the bookmarks taken so
far, so that an operation names a bookmark by the order in which it was taken. -/

set_option autoImplicit false

namespace StyleTokens.Cursor

inductive Step where
  | peek
  | read
  | readWhile (accepted : Char → Bool)
  | accept (accepted : Char → Bool)
  | expect (accepted : Char → Bool) (expected : String)
  | skipSpaces
  | seek (wanted : Char → Bool)
  | isAtEnd
  | bookmark
  | goto (mark : Nat)
  | slice (start stop : Nat)
  | compare (first second : Nat)

inductive Answer where
  | nothing
  | character (found : Option Char)
  | text (run : String)
  | expected (outcome : Except Mismatch Char)
  | truth (holds : Bool)
  | index (mark : Nat)
  | slice (run : Option String)
  | order (order : Ordering)
  | unknownBookmark

structure Machine where
  cursor : Cursor
  bookmarks : List Bookmark

def Machine.ofString (text : String) : Machine := ⟨Cursor.ofString text, []⟩

/-- One operation; a bookmark that was never taken leaves everything as it is. -/
def Step.run (step : Step) (machine : Machine) : Answer × Machine :=
  let cursor := machine.cursor
  let moveTo (next : Cursor) : Machine := { machine with cursor := next }
  match step with
  | .peek => (.character cursor.peek, machine)
  | .read => let (c, next) := cursor.read; (.character c, moveTo next)
  | .readWhile accepted => let (run, next) := cursor.readWhile accepted; (.text run, moveTo next)
  | .accept accepted => let (c, next) := cursor.accept accepted; (.character c, moveTo next)
  | .expect accepted expected =>
    let (outcome, next) := cursor.expect accepted expected; (.expected outcome, moveTo next)
  | .skipSpaces => (.nothing, moveTo cursor.skipSpaces)
  | .seek wanted => let (found, next) := cursor.seek wanted; (.truth found, moveTo next)
  | .isAtEnd => (.truth cursor.isAtEnd, machine)
  | .bookmark =>
    (.index machine.bookmarks.length,
      { machine with bookmarks := machine.bookmarks ++ [cursor.bookmark] })
  | .goto mark =>
    match machine.bookmarks[mark]? with
    | some mark => (.nothing, moveTo (cursor.goto mark))
    | none => (.unknownBookmark, machine)
  | .slice start stop =>
    match machine.bookmarks[start]?, machine.bookmarks[stop]? with
    | some start, some stop => (.slice (cursor.slice start stop), machine)
    | _, _ => (.unknownBookmark, machine)
  | .compare first second =>
    match machine.bookmarks[first]?, machine.bookmarks[second]? with
    | some first, some second => (.order (first.order second), machine)
    | _, _ => (.unknownBookmark, machine)

def run : List Step → Machine → List (Answer × Nat) × Machine
  | [], machine => ([], machine)
  | step :: steps, machine =>
    let (answer, next) := step.run machine
    let (answers, final) := run steps next
    ((answer, next.cursor.offset) :: answers, final)

end StyleTokens.Cursor
