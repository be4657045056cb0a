import StyleTokens.Proofs.Text.Normal
import StyleTokens.Proofs.Token.Grammar

/-! Arguments of a token in normal form. Bringing a text into normal form may change what its arguments
say, but not that they are arguments: as many quoted and bare ones stand there as before, and
nothing else ends them. -/

set_option autoImplicit false

namespace StyleTokens

open Text (isBlank isInert settled recompose normalForm Resembles)
open Quoted (Piece writtenBody)

/-! ### Bodies of quoted arguments -/

namespace Quoted

variable {mark : Char} {text text' : List Char}

theorem isInert_of_isQuote (quote : IsQuote mark) : isInert mark := by
  rcases quote with rfl | rfl <;> decide

theorem plain_of_holds {p : Char → Prop} (notMark : ¬p mark) (notBackslash : ¬p '\\') {c : Char}
    (holds : p c) : isPlain mark c := by
  have notMark' : c ≠ mark := by
    rintro rfl
    exact notMark holds
  have notBackslash' : c ≠ '\\' := by
    rintro rfl
    exact notBackslash holds
  simp [isPlain, notMark', notBackslash']

theorem plain_of_active {c : Char} (quote : IsQuote mark) (active : isInert c = false) :
    isPlain mark c := by
  refine plain_of_holds (p := (isInert · = false)) ?_ (by decide) active
  rw [isInert_of_isQuote quote]
  decide

theorem plain_of_blank {c : Char} (quote : IsQuote mark) (blank : isBlank c) : isPlain mark c := by
  refine plain_of_holds (p := (isBlank · = true)) ?_ (by decide) blank
  rw [isBlank_of_isQuote quote]
  decide

theorem plain_settled {c : Char} (quote : IsQuote mark) (plain : isPlain mark c) :
    isPlain mark (settled c) := by
  rcases Text.settled_cases c with same | ⟨-, blank⟩
  · rwa [same]
  · exact plain_of_blank quote blank

/-- Whether the text, behind a backslash if `escaped`, is all that stands before the closing mark. -/
def Closes (mark : Char) (escaped : Bool) (text : List Char) : Prop :=
  (unescape mark (pending escaped (text ++ [mark]))).map Prod.snd = some []

theorem closes_run {run : List Char} (quote : IsQuote mark) (filled : run ≠ [])
    (active : ∀ c ∈ run, isInert c = false) (escaped : Bool) (text : List Char) :
    Closes mark escaped (run ++ text) ↔ Closes mark false text := by
  have plain : ∀ c ∈ run, isPlain mark c := fun c inside => plain_of_active quote (active c inside)
  have one : run.isEmpty = false := by simpa using filled
  rw [Closes, Closes, List.append_assoc, unescape_run plain, one, Bool.and_false, Option.map_map]
  rfl

theorem closes_escaped (c : Char) (text : List Char) :
    Closes mark true (c :: text) ↔ Closes mark false text := by
  have escape : unescape mark (pending true (c :: text ++ [mark])) =
      (unescape mark (text ++ [mark])).map fun found => (c :: found.1, found.2) := rfl
  rw [Closes, escape, Option.map_map]
  rfl

theorem closes_plain {c : Char} (plain : isPlain mark c) (text : List Char) :
    Closes mark false (c :: text) ↔ Closes mark false text := by
  have here := unescape_pending_plain plain false (text ++ [mark])
  rw [Closes, List.cons_append, here, Option.map_map]
  rfl

theorem closes_of_resembles (quote : IsQuote mark) (alike : Resembles text text') {escaped : Bool}
    (closes : Closes mark escaped text) : Closes mark escaped text' := by
  induction alike generalizing escaped with
  | nil => exact closes
  | @inert c text text' inert _ ih =>
    cases escaped with
    | true => exact (closes_escaped _ _).2 (ih ((closes_escaped _ _).1 closes))
    | false =>
      by_cases backslash : c = '\\'
      · subst backslash
        have same : settled '\\' = '\\' := Text.settled_of_not_blank (by decide)
        rw [same]
        -- the backslash comes to stand behind the front of the text
        exact @ih true closes
      · have notMark : c ≠ mark := by
          rintro rfl
          have ends := unescape_mark (ne_backslash_of_isQuote quote) (text ++ [c])
          rw [Closes, List.cons_append, pending, if_neg Bool.false_ne_true, ends] at closes
          simp at closes
        have plain : isPlain mark c := by simp [isPlain, notMark, backslash]
        rw [closes_plain plain] at closes
        exact (closes_plain (plain_settled quote plain) _).2 (ih closes)
  | active filled filled' active active' _ ih =>
    rw [closes_run quote filled active] at closes
    rw [closes_run quote filled' active']
    exact ih closes

theorem recompose_writtenBody (quote : IsQuote mark) {body : List Piece}
    (fits : ∀ piece ∈ body, piece.Fits mark) :
    ∃ body' : List Piece, (∀ piece ∈ body', piece.Fits mark) ∧
      recompose (writtenBody body) = writtenBody body' := by
  have other := ne_backslash_of_isQuote quote
  have closes : Closes mark false (writtenBody body) := by
    have read := unescape_writtenBody other fits []
    rw [Closes, pending, if_neg Bool.false_ne_true, read]
    rfl
  have closes' := closes_of_resembles quote (Text.resembles_recompose _) closes
  obtain ⟨⟨content, after⟩, read, rfl⟩ := Option.map_eq_some_iff.1 closes'
  obtain ⟨body', fits', whole, -⟩ := writtenBody_of_unescape read
  exact ⟨body', fits', List.append_cancel_right whole⟩

end Quoted

/-! ### Arguments -/

theorem isInert_of_endsItem {c : Char} (ends : EndsItem c) : isInert c := by
  rcases ends with rfl | rfl <;> decide

theorem endsItem_of_settled {c : Char} (ends : EndsItem (settled c)) : EndsItem c := by
  rcases Text.settled_cases c with same | ⟨-, blank⟩
  · rwa [same] at ends
  · rw [isBlank_of_endsItem ends] at blank
    cases blank

theorem recompose_nil : recompose [] = [] := rfl

theorem recompose_parted {c : Char} (inert : isInert c) (notBlank : isBlank c = false)
    (before after : List Char) :
    recompose (before ++ c :: after) = recompose before ++ c :: recompose after := by
  rw [Text.recompose_append inert, Text.settled_of_not_blank notBlank]

theorem recompose_item {item : Item} (fits : item.Fits) :
    ∃ item' : Item, item'.Fits ∧ recompose item.written = item'.written := by
  cases item with
  | quoted before mark body after =>
    obtain ⟨blank, quote, pieces, blank'⟩ := fits
    obtain ⟨body', pieces', inside⟩ := Quoted.recompose_writtenBody quote pieces
    obtain ⟨before', before_blank, front⟩ :=
      Text.recompose_blank blank (mark :: (writtenBody body ++ mark :: after))
    obtain ⟨after', after_blank, back⟩ := Text.recompose_blank blank' []
    rw [List.append_nil, recompose_nil, List.append_nil] at back
    have parted := recompose_parted (Quoted.isInert_of_isQuote quote) (isBlank_of_isQuote quote)
    refine ⟨.quoted before' mark body' after', ⟨before_blank, quote, pieces', after_blank⟩, ?_⟩
    calc
      _ = before' ++ recompose (mark :: (writtenBody body ++ mark :: after)) := front
      _ = before' ++ mark :: recompose (writtenBody body ++ mark :: after) :=
        congrArg (before' ++ ·) (parted [] _)
      _ = before' ++ mark :: (writtenBody body' ++ mark :: after') := by rw [parted, inside, back]
  | bare before run =>
    obtain ⟨blank, filled, inside, first⟩ := fits
    obtain ⟨before', before_blank, front⟩ := Text.recompose_blank blank run
    have alike := Text.resembles_recompose run
    refine ⟨.bare before' (recompose run), ⟨before_blank, alike.ne_nil filled, ?_, ?_⟩, front⟩
    · intro c found ends
      obtain ⟨origin, among, rfl⟩ := alike.exists_settled found (isInert_of_endsItem ends)
      exact inside origin among (endsItem_of_settled ends)
    · intro c found
      obtain ⟨origin, start, same⟩ := alike.head? found
      obtain ⟨notBlank, notQuote⟩ := first origin start
      rcases same with rfl | active
      · rw [Text.settled_of_not_blank notBlank]
        exact ⟨notBlank, notQuote⟩
      · have lively {p : Prop} (inert : p → isInert c) : ¬p :=
          fun holds => Bool.eq_false_iff.1 active (inert holds)
        exact ⟨Bool.eq_false_iff.2 (lively Text.isInert_of_isBlank),
          lively Quoted.isInert_of_isQuote⟩

theorem recompose_writtenItems {first : Item} {more : List Item}
    (fits : ∀ item ∈ first :: more, item.Fits) :
    ∃ first' more', (∀ item ∈ first' :: more', Item.Fits item) ∧
      recompose (writtenItems first more ++ [')']) = writtenItems first' more' ++ [')'] := by
  induction more generalizing first with
  | nil =>
    obtain ⟨first', fits', same⟩ := recompose_item (fits first List.mem_cons_self)
    refine ⟨first', [], by simpa using fits', ?_⟩
    rw [writtenItems, recompose_parted (by decide) (by decide), same]
    rfl
  | cons second more ih =>
    obtain ⟨here, later⟩ := List.forall_mem_cons.1 fits
    obtain ⟨first', fits', same⟩ := recompose_item here
    obtain ⟨second', more', fits'', same'⟩ := ih later
    refine ⟨first', second' :: more', List.forall_mem_cons.2 ⟨fits', fits''⟩, ?_⟩
    rw [writtenItems, List.append_assoc, List.cons_append, recompose_parted (by decide) (by decide),
      same, same', writtenItems, List.append_assoc, List.cons_append]

/-- The normal form of a token keeps its name and its first argument if no character in them is composed
of others, and has arguments where there were arguments. -/
theorem normalForm_written {front : List Char} (low : ∀ c ∈ front, c.toNat < 0xC0) {first : Item}
    {more : List Item} (fits : ∀ item ∈ first :: more, item.Fits) :
    ∃ first' more', (∀ item ∈ first' :: more', Item.Fits item) ∧
      normalForm (front ++ ',' :: (writtenItems first more ++ [')'])) =
        front ++ ',' :: (writtenItems first' more' ++ [')']) := by
  rw [normalForm]
  split
  · exact ⟨first, more, fits, rfl⟩
  · obtain ⟨first', more', fits', same⟩ := recompose_writtenItems fits
    refine ⟨first', more', fits', ?_⟩
    have inert : isInert ',' := by decide
    have comma := recompose_parted inert (by decide) [] (writtenItems first more ++ [')'])
    rw [Text.recompose_append_of_low low (by decide), ← same]
    exact congrArg (front ++ ·) comma

end StyleTokens
