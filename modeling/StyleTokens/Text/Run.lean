/-! Runs of characters: the longest initial stretch that satisfies a test, and what follows it. -/

set_option autoImplicit false

namespace StyleTokens.Text

theorem length_dropWhile_le {α : Type} (accepted : α → Bool) (text : List α) :
    (text.dropWhile accepted).length ≤ text.length :=
  (List.dropWhile_sublist accepted).length_le

theorem drop_takeWhile {α : Type} (accepted : α → Bool) (text : List α) :
    text.drop (text.takeWhile accepted).length = text.dropWhile accepted := by
  have whole := List.takeWhile_append_dropWhile (p := accepted) (l := text)
  calc
    _ = (text.takeWhile accepted ++ text.dropWhile accepted).drop _ := by rw [whole]
    _ = _ := List.drop_left

theorem shorter_of_dropWhile {α : Type} {accepted : α → Bool} {text rest : List α} {c : α}
    (found : text.dropWhile accepted = c :: rest) : rest.length < text.length := by
  have shorter := length_dropWhile_le accepted text
  simp only [found, List.length_cons] at shorter
  omega

theorem shorter_of_takeWhile {α : Type} {accepted : α → Bool} {text : List α}
    (run : text.takeWhile accepted ≠ []) : (text.dropWhile accepted).length < text.length := by
  have whole := congrArg List.length (List.takeWhile_append_dropWhile (p := accepted) (l := text))
  have positive := List.length_pos_iff.2 run
  simp only [List.length_append] at whole
  omega

end StyleTokens.Text
