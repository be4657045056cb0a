import StyleTokens.Text.Blank
import StyleTokens.Text.Run

/-! A reading position over a text that does not change. Positions count characters. Reading moves
forward only; `goto` returns to a bookmark, and `slice` gives the text between two of them. -/

set_option autoImplicit false

namespace StyleTokens

/-- A required character that was not there: what was required, and what stood in its place, or
nothing at the end of the text. -/
structure Mismatch where
  expected : String
  found : Option Char
  deriving DecidableEq, Repr

def Mismatch.message (mismatch : Mismatch) : String :=
  let found := match mismatch.found with
    | some c => "'" ++ c.toString ++ "'"
    | none => "end of input"
  "expected " ++ mismatch.expected ++ ", found " ++ found

structure Bookmark where
  offset : Nat
  deriving DecidableEq, Repr

def Bookmark.order (first second : Bookmark) : Ordering := compare first.offset second.offset

structure Cursor where
  text : List Char
  offset : Nat
  deriving DecidableEq, Repr

namespace Cursor

def ofString (text : String) : Cursor := ⟨text.toList, 0⟩

def rest (cursor : Cursor) : List Char := cursor.text.drop cursor.offset

def advance (cursor : Cursor) (count : Nat) : Cursor :=
  { cursor with offset := cursor.offset + count }

def isAtEnd (cursor : Cursor) : Bool := cursor.text.length ≤ cursor.offset

def peek (cursor : Cursor) : Option Char := cursor.rest.head?

def read (cursor : Cursor) : Option Char × Cursor :=
  match cursor.peek with
  | some c => (some c, cursor.advance 1)
  | none => (none, cursor)

def readWhile (accepted : Char → Bool) (cursor : Cursor) : String × Cursor :=
  let run := cursor.rest.takeWhile accepted
  (String.ofList run, cursor.advance run.length)

def accept (accepted : Char → Bool) (cursor : Cursor) : Option Char × Cursor :=
  match cursor.peek with
  | some c => if accepted c then (some c, cursor.advance 1) else (none, cursor)
  | none => (none, cursor)

/-- Like `accept`, but a character that is refused is a mismatch, described by `expected`. -/
def expect (accepted : Char → Bool) (expected : String) (cursor : Cursor) :
    Except Mismatch Char × Cursor :=
  match cursor.accept accepted with
  | (some c, next) => (.ok c, next)
  | (none, next) => (.error ⟨expected, next.peek⟩, next)

def skipSpaces (cursor : Cursor) : Cursor := (cursor.readWhile Text.isBlank).2

/-- Moves to the next character that satisfies `wanted`, which stays unread, or to the end; says
whether there was one. -/
def seek (wanted : Char → Bool) (cursor : Cursor) : Bool × Cursor :=
  let next := (cursor.readWhile fun c => !wanted c).2
  (next.peek.isSome, next)

def bookmark (cursor : Cursor) : Bookmark := ⟨cursor.offset⟩

def goto (mark : Bookmark) (cursor : Cursor) : Cursor := { cursor with offset := mark.offset }

/-- The text from one bookmark to another; there is none from a later one to an earlier one, nor
past the end. -/
def slice (start stop : Bookmark) (cursor : Cursor) : Option String :=
  if start.offset ≤ stop.offset ∧ stop.offset ≤ cursor.text.length then
    some (String.ofList ((cursor.text.drop start.offset).take (stop.offset - start.offset)))
  else none

/-! ### What is left to read -/

section

variable {cursor next : Cursor} {accepted : Char → Bool} {c : Char}

theorem rest_advance (cursor : Cursor) (count : Nat) :
    (cursor.advance count).rest = cursor.rest.drop count := by
  simp [advance, rest, List.drop_drop]

theorem isAtEnd_iff : cursor.isAtEnd ↔ cursor.rest = [] := by
  simp [isAtEnd, rest]

theorem rest_readWhile (accepted : Char → Bool) (cursor : Cursor) :
    (cursor.readWhile accepted).2.rest = cursor.rest.dropWhile accepted := by
  rw [readWhile, rest_advance, Text.drop_takeWhile]

theorem accept_eq_some_iff : cursor.accept accepted = (some c, next) ↔
    cursor.rest.head? = some c ∧ accepted c ∧ next = cursor.advance 1 := by
  unfold accept peek
  split
  · next d first =>
    by_cases fits : accepted d
    · simp only [first, if_pos fits, Prod.mk.injEq, Option.some.injEq]
      constructor
      · rintro ⟨rfl, rfl⟩
        exact ⟨rfl, fits, rfl⟩
      · rintro ⟨rfl, -, rfl⟩
        exact ⟨rfl, rfl⟩
    · simp only [first, if_neg fits, Option.some.injEq]
      constructor
      · rintro ⟨⟩
      · rintro ⟨rfl, fits', -⟩
        exact absurd fits' fits
  · next none => simp [none]

theorem accept_eq_none_iff : cursor.accept accepted = (none, next) ↔
    (∀ c ∈ cursor.rest.head?, accepted c = false) ∧ next = cursor := by
  unfold accept peek
  split
  · next d first =>
    by_cases fits : accepted d
    · simp [first, fits]
    · simp only [first, if_neg fits, Prod.mk.injEq, true_and, Option.mem_some_iff, forall_eq']
      exact ⟨fun same => ⟨by simpa using fits, same.symm⟩, fun both => both.2.symm⟩
  · next none =>
    simp only [none, Prod.mk.injEq, true_and]
    exact ⟨fun same => ⟨by simp, same.symm⟩, fun both => both.2.symm⟩

theorem shorter_of_accept (found : cursor.accept accepted = (some c, next)) :
    next.rest.length < cursor.rest.length := by
  obtain ⟨first, -, rfl⟩ := accept_eq_some_iff.1 found
  obtain ⟨tail, whole⟩ := List.head?_eq_some_iff.1 first
  simp [rest_advance, whole]

end

end Cursor
end StyleTokens
