import StyleTokens.Proofs.Token.Quoted
import StyleTokens.Token.Scan

/-! The written form of a token as a tree: the name, the parameters with every blank between them,
and the blank at the end. A tree has the text that it was written as, fits or does not fit the text
that follows it, and stands for one token at a given place. -/

set_option autoImplicit false

namespace StyleTokens

open Text (isBlank Stops)
open Quoted (Piece writtenBody)

def IsQuote (c : Char) : Prop := c = '"' ∨ c = '\''

instance (c : Char) : Decidable (IsQuote c) := inferInstanceAs (Decidable (_ ∨ _))

def EndsItem (c : Char) : Prop := c = ',' ∨ c = ')'

instance (c : Char) : Decidable (EndsItem c) := inferInstanceAs (Decidable (_ ∨ _))

/-- An argument with the blanks around it that do not belong to it. -/
inductive Item where
  | quoted (before : List Char) (mark : Char) (body : List Piece) (after : List Char)
  | bare (before run : List Char)
  deriving DecidableEq, Repr

namespace Item

def before : Item → List Char
  | .quoted before .. => before
  | .bare before _ => before

def core : Item → List Char
  | .quoted _ mark body after => mark :: (writtenBody body ++ mark :: after)
  | .bare _ run => run

def written (item : Item) : List Char := item.before ++ item.core

/-- The argument itself: the characters that the pieces stand for, or the run as it is. -/
def arg : Item → List Char
  | .quoted _ _ body _ => body.map Piece.char
  | .bare _ run => run

/-- A bare argument is not empty, starts neither with a blank nor with a quote, and goes on up to
the character that ends it, blanks included. -/
def Fits : Item → Prop
  | .quoted before mark body after =>
    (∀ c ∈ before, isBlank c) ∧ IsQuote mark ∧ (∀ piece ∈ body, piece.Fits mark) ∧
      ∀ c ∈ after, isBlank c
  | .bare before run =>
    (∀ c ∈ before, isBlank c) ∧ run ≠ [] ∧ (∀ c ∈ run, ¬EndsItem c) ∧
      ∀ c ∈ run.head?, isBlank c = false ∧ ¬IsQuote c

/-- An argument before `rest` goes on for as long as it can: a quoted one takes all blanks behind it,
and a bare one stops at the end or at a character that ends it. -/
def Reaches (rest : List Char) : Item → Prop
  | .quoted .. => Stops isBlank rest
  | .bare .. => Stops isBareChar rest

end Item

def writtenItems (first : Item) : List Item → List Char
  | [] => first.written
  | second :: more => first.written ++ ',' :: writtenItems second more

/-- What follows a name: nothing, or parentheses with blanks only or with arguments between them. -/
inductive Params where
  | absent
  | empty (before inside : List Char)
  | listed (before : List Char) (first : Item) (more : List Item)
  deriving DecidableEq, Repr

namespace Params

def written : Params → List Char
  | .absent => []
  | .empty before inside => before ++ '(' :: (inside ++ [')'])
  | .listed before first more => before ++ '(' :: (writtenItems first more ++ [')'])

theorem written_empty_append (before inside rest : List Char) :
    (Params.empty before inside).written ++ rest = before ++ '(' :: (inside ++ ')' :: rest) := by
  simp [written]

theorem written_listed_append (before : List Char) (first : Item) (more : List Item)
    (rest : List Char) :
    (Params.listed before first more).written ++ rest =
      before ++ '(' :: (writtenItems first more ++ ')' :: rest) := by
  simp [written]

def args : Params → List (List Char)
  | .absent | .empty .. => []
  | .listed _ first more => (first :: more).map Item.arg

/-- Parameters are absent only where no parenthesis follows, not even after blanks. -/
def Fits (rest : List Char) : Params → Prop
  | .absent => (rest.dropWhile isBlank).head? ≠ some '('
  | .empty before inside => (∀ c ∈ before, isBlank c) ∧ ∀ c ∈ inside, isBlank c
  | .listed before first more =>
    (∀ c ∈ before, isBlank c) ∧ ∀ item ∈ first :: more, item.Fits

end Params

structure Form where
  name : List Char
  params : Params
  suffix : Option Char
  deriving DecidableEq, Repr

namespace Form

def tail (form : Form) : List Char := form.params.written ++ form.suffix.toList

def written (form : Form) : List Char := '$' :: (form.name ++ form.tail)

/-- A form as the grammar allows it before `rest`: the name is the longest one and has no empty
segment, and one blank is taken if there is one. -/
structure Fits (form : Form) (rest : List Char) : Prop where
  name : ∀ c ∈ form.name, isNameChar c
  longest : Stops isNameChar (form.tail ++ rest)
  segments : ∀ segment ∈ form.name.splitOn '.', segment ≠ []
  params : form.params.Fits (form.suffix.toList ++ rest)
  suffix : ∀ c ∈ form.suffix, isBlank c
  noSuffix : form.suffix = none → Stops isBlank rest

/-- The token that a form at `start` stands for. -/
def token (form : Form) (start : Nat) : Token where
  start
  stop := start + form.written.length
  raw := String.ofList form.written
  suffix := form.suffix
  path := (form.name.splitOn '.').map String.ofList
  args := form.params.args.map String.ofList

end Form

/-! ### Where an argument starts -/

theorem isBlank_of_isQuote {c : Char} (quote : IsQuote c) : isBlank c = false := by
  rcases quote with rfl | rfl <;> decide

theorem isBlank_of_endsItem {c : Char} (ends : EndsItem c) : isBlank c = false := by
  rcases ends with rfl | rfl <;> decide

theorem stops_opening (inside : List Char) : Stops isBlank ('(' :: inside) :=
  Text.stops_cons.2 (by decide)

theorem stops_closing (rest : List Char) : Stops isBlank (')' :: rest) :=
  Text.stops_cons.2 (by decide)

theorem not_endsItem_of_isQuote {c : Char} (quote : IsQuote c) : ¬EndsItem c := by
  rcases quote with rfl | rfl <;> decide

theorem ne_backslash_of_isQuote {c : Char} (quote : IsQuote c) : c ≠ '\\' := by
  rcases quote with rfl | rfl <;> decide

namespace Item.Fits

variable {item : Item}

theorem blank_before (fits : item.Fits) : ∀ c ∈ item.before, isBlank c := by
  cases item <;> exact fits.1

-- A quote is neither a blank nor an end, and a bare argument excludes both by its conditions.
theorem core_start (fits : item.Fits) :
    ∃ c more, item.core = c :: more ∧ isBlank c = false ∧ ¬EndsItem c := by
  cases item with
  | quoted before mark body after =>
    obtain ⟨-, quote, -, -⟩ := fits
    exact ⟨mark, _, rfl, isBlank_of_isQuote quote, not_endsItem_of_isQuote quote⟩
  | bare before run =>
    obtain ⟨-, filled, inside, first⟩ := fits
    obtain ⟨c, more, rfl⟩ := List.exists_cons_of_ne_nil filled
    exact ⟨c, more, rfl, (first c rfl).1, inside c (List.mem_cons_self ..)⟩

theorem stops_core (fits : item.Fits) (rest : List Char) : Stops isBlank (item.core ++ rest) := by
  obtain ⟨c, more, start, notBlank, -⟩ := fits.core_start
  rw [start, List.cons_append]
  simpa using notBlank

theorem dropWhile_written (fits : item.Fits) (rest : List Char) :
    (item.written ++ rest).dropWhile isBlank = item.core ++ rest := by
  rw [Item.written, List.append_assoc]
  exact Text.dropWhile_append_of_stops fits.blank_before (fits.stops_core rest)

end Item.Fits

theorem writtenItems_start {first : Item} (fits : first.Fits) (more : List Item)
    (rest : List Char) :
    ∃ c core, (writtenItems first more ++ rest).dropWhile isBlank = c :: core ∧ ¬EndsItem c := by
  obtain ⟨c, core, start, -, notEnd⟩ := fits.core_start
  cases more with
  | nil =>
    refine ⟨c, core ++ rest, ?_, notEnd⟩
    rw [writtenItems, fits.dropWhile_written, start, List.cons_append]
  | cons second more =>
    refine ⟨c, core ++ ',' :: writtenItems second more ++ rest, ?_, notEnd⟩
    rw [writtenItems, List.append_assoc, fits.dropWhile_written, start, List.append_assoc,
      List.cons_append]

end StyleTokens
