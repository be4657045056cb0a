import StyleTokens.Cursor

/-! Where a cursor stands. A cursor inside its text is given by the text and by what is left of it to
read, and reading leaves it inside. -/

set_option autoImplicit false

namespace StyleTokens.Cursor

variable {cursor next : Cursor} {accepted wanted : Char → Bool} {c : Char}

/-- The cursor stands in its text or at the end of it. -/
def Inside (cursor : Cursor) : Prop := cursor.offset ≤ cursor.text.length

instance (cursor : Cursor) : Decidable cursor.Inside := inferInstanceAs (Decidable (_ ≤ _))

/-- The cursor over a text that has `rest` left to read. -/
def before (text rest : List Char) : Cursor := ⟨text, text.length - rest.length⟩

theorem length_rest (cursor : Cursor) : cursor.rest.length = cursor.text.length - cursor.offset :=
  List.length_drop

theorem Inside.eq_before (inside : cursor.Inside) : cursor = before cursor.text cursor.rest := by
  have offset : cursor.offset = cursor.text.length - cursor.rest.length := by
    rw [length_rest, Nat.sub_sub_self inside]
  rw [before, ← offset]

theorem before_nil (text : List Char) : before text [] = ⟨text, text.length⟩ := rfl

theorem rest_advance_of_append {run after : List Char} (whole : cursor.rest = run ++ after) :
    (cursor.advance run.length).rest = after := by
  rw [rest_advance, whole, List.drop_left]

theorem Inside.advance {run after : List Char} (inside : cursor.Inside)
    (whole : cursor.rest = run ++ after) : (cursor.advance run.length).Inside := by
  have length := congrArg List.length whole
  have offset : cursor.offset ≤ cursor.text.length := inside
  rw [length_rest, List.length_append] at length
  change cursor.offset + run.length ≤ cursor.text.length
  omega

/-- After a stretch of the text the cursor stands before what follows it. -/
theorem Inside.advance_eq_before {run after : List Char} (inside : cursor.Inside)
    (whole : cursor.rest = run ++ after) : cursor.advance run.length = before cursor.text after := by
  rw [(inside.advance whole).eq_before, rest_advance_of_append whole]
  rfl

theorem Inside.readWhile (inside : cursor.Inside) (accepted : Char → Bool) :
    (cursor.readWhile accepted).2.Inside :=
  inside.advance List.takeWhile_append_dropWhile.symm

theorem rest_of_head? (first : cursor.rest.head? = some c) :
    cursor.rest = c :: (cursor.advance 1).rest := by
  obtain ⟨tail, whole⟩ := List.head?_eq_some_iff.1 first
  have left : (cursor.advance 1).rest = tail := @rest_advance_of_append _ [c] tail whole
  rw [left, whole]

theorem Inside.advance_one (inside : cursor.Inside) (first : cursor.rest.head? = some c) :
    (cursor.advance 1).Inside :=
  @Inside.advance _ [c] _ inside (rest_of_head? first)

/-- A run and the character behind it, which is read too. -/
theorem accept_readWhile (found : (cursor.readWhile accepted).2.accept wanted = (some c, next)) :
    cursor.rest = cursor.rest.takeWhile accepted ++ c :: next.rest ∧ wanted c ∧
      next.text = cursor.text ∧ (cursor.Inside → next.Inside) := by
  obtain ⟨first, fits, rfl⟩ := accept_eq_some_iff.1 found
  refine ⟨?_, fits, rfl, fun inside => (inside.readWhile accepted).advance_one first⟩
  rw [← rest_of_head? first, rest_readWhile, List.takeWhile_append_dropWhile]

end StyleTokens.Cursor
