import Mathlib.Data.List.Basic
import Mathlib.Data.List.TakeWhile
import StyleTokens.Text.Blank
import StyleTokens.Text.Run

/-! How a text divides into runs. A run of accepted characters is the longest one when the text does
not go on with an accepted character, and then both parts can be read off the whole. -/

set_option autoImplicit false

namespace StyleTokens.Text

variable {accepted : Char → Bool} {run run' rest rest' text : List Char}

/-- The text does not go on with an accepted character. -/
def Stops (accepted : Char → Bool) (text : List Char) : Prop :=
  ∀ c ∈ text.head?, accepted c = false

@[simp] theorem stops_nil : Stops accepted [] := by simp [Stops]

@[simp] theorem stops_cons {c : Char} : Stops accepted (c :: rest) ↔ accepted c = false := by
  simp [Stops]

theorem Stops.append (stops : Stops accepted text) (filled : text ≠ []) (more : List Char) :
    Stops accepted (text ++ more) := by
  rw [Stops, List.head?_append_of_ne_nil _ filled]
  exact stops

theorem Stops.of_append {more : List Char} (stops : Stops accepted (text ++ more)) :
    Stops accepted text := by
  intro c found
  exact stops c (by simp [Option.mem_def.1 found])

theorem stops_dropWhile (accepted : Char → Bool) (text : List Char) :
    Stops accepted (text.dropWhile accepted) := by
  intro c found
  have refused := List.head?_dropWhile_not accepted text
  rw [Option.mem_def.1 found] at refused
  exact refused

theorem dropWhile_of_stops (stops : Stops accepted text) : text.dropWhile accepted = text := by
  cases text with
  | nil => rfl
  | cons c rest => exact List.dropWhile_cons_of_neg (by simpa using stops)

theorem takeWhile_of_stops (stops : Stops accepted text) : text.takeWhile accepted = [] := by
  cases text with
  | nil => rfl
  | cons c rest => exact List.takeWhile_cons_of_neg (by simpa using stops)

theorem takeWhile_append_of_stops (all : ∀ c ∈ run, accepted c) (stops : Stops accepted rest) :
    (run ++ rest).takeWhile accepted = run := by
  rw [List.takeWhile_append_of_pos all, takeWhile_of_stops stops, List.append_nil]

theorem dropWhile_append_of_stops (all : ∀ c ∈ run, accepted c) (stops : Stops accepted rest) :
    (run ++ rest).dropWhile accepted = rest := by
  rw [List.dropWhile_append_of_pos all, dropWhile_of_stops stops]

theorem exists_run (accepted : Char → Bool) (text : List Char) :
    ∃ run, (∀ c ∈ run, accepted c) ∧ text = run ++ text.dropWhile accepted :=
  ⟨text.takeWhile accepted, fun _ => List.mem_takeWhile_imp,
    List.takeWhile_append_dropWhile.symm⟩

theorem length_sub_of_append (whole : text = run ++ rest) :
    text.length - rest.length = run.length := by
  rw [whole, List.length_append, Nat.add_sub_cancel]

theorem take_of_append (whole : text = run ++ rest) : text.take run.length = run := by
  rw [whole, List.take_left]

/-- A text divides in one way into a run of accepted characters and a rest that does not go on
with one. -/
theorem run_unique (all : ∀ c ∈ run, accepted c) (stops : Stops accepted rest)
    (all' : ∀ c ∈ run', accepted c) (stops' : Stops accepted rest')
    (same : run ++ rest = run' ++ rest') : run = run' ∧ rest = rest' := by
  constructor
  · rw [← takeWhile_append_of_stops all stops, same, takeWhile_append_of_stops all' stops']
  · rw [← dropWhile_append_of_stops all stops, same, dropWhile_append_of_stops all' stops']

theorem dropWhile_dropWhile (accepted : Char → Bool) (text : List Char) :
    (text.dropWhile accepted).dropWhile accepted = text.dropWhile accepted :=
  dropWhile_of_stops (stops_dropWhile accepted text)

/-! ### Stretches between marks -/

theorem mem_intercalate {mark c : Char} {parts : List (List Char)}
    (found : c ∈ [mark].intercalate parts) : c = mark ∨ ∃ part ∈ parts, c ∈ part := by
  induction parts with
  | nil => simp at found
  | cons first more ih =>
    cases more with
    | nil =>
      rw [List.intercalate_singleton] at found
      exact .inr ⟨first, List.mem_cons_self, found⟩
    | cons second more =>
      rw [List.intercalate_cons_cons, List.append_assoc] at found
      rcases List.mem_append.1 found with found | found
      · exact .inr ⟨first, List.mem_cons_self, found⟩
      · rcases List.mem_cons.1 found with same | found
        · exact .inl same
        · obtain same | ⟨part, inside, found⟩ := ih found
          · exact .inl same
          · exact .inr ⟨part, List.mem_cons_of_mem _ inside, found⟩

theorem not_mem_of_mem_splitOn {mark : Char} {text stretch : List Char}
    (found : stretch ∈ text.splitOn mark) : mark ∉ stretch := by
  induction text generalizing stretch with
  | nil =>
    rw [List.splitOn_nil, List.mem_singleton] at found
    simp [found]
  | cons c rest ih =>
    rw [List.splitOn_cons_eq_if_modifyHead] at found
    obtain ⟨first, more, parts⟩ := List.exists_cons_of_ne_nil (List.splitOn_ne_nil mark rest)
    rw [parts] at ih found
    split at found
    · rcases List.mem_cons.1 found with rfl | found
      · simp
      · exact ih found
    · next here =>
      rcases List.mem_cons.1 found with rfl | found
      · rw [List.mem_cons, not_or]
        exact ⟨fun same => here (beq_iff_eq.2 same.symm), ih (List.mem_cons_self ..)⟩
      · exact ih (List.mem_cons_of_mem _ found)

end StyleTokens.Text
