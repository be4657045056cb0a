import StyleTokens.Proofs.Cursor.Position

/-! How far a cursor reads. Every reading operation leaves the cursor where it stands or further on in
its text. A run ends at the first character that is refused, a search at the first that is wanted, or
else at the end of the text; and what a run has passed is the slice from its start up to its end. -/

set_option autoImplicit false

namespace StyleTokens.Cursor

variable {cursor next : Cursor} {accepted wanted : Char → Bool} {c : Char} {text : List Char}
  {start middle stop place : Nat} {run more : String}

/-! ### Here or further on -/

/-- The other cursor stands in the same text, in the same place or further on. -/
structure Ahead (cursor next : Cursor) : Prop where
  text : next.text = cursor.text
  forward : cursor.offset ≤ next.offset
  inside : next.Inside

theorem head?_rest (cursor : Cursor) : cursor.rest.head? = cursor.text[cursor.offset]? :=
  List.head?_drop

theorem Inside.ahead (inside : cursor.Inside) : cursor.Ahead cursor :=
  ⟨rfl, Nat.le_refl _, inside⟩

theorem Inside.ahead_next (inside : cursor.Inside) (first : cursor.rest.head? = some c) :
    cursor.Ahead (cursor.advance 1) :=
  ⟨rfl, Nat.le_add_right _ _, inside.advance_one first⟩

theorem Inside.ahead_read (inside : cursor.Inside) : cursor.Ahead cursor.read.2 := by
  unfold read peek
  split
  · next first => exact inside.ahead_next first
  · exact inside.ahead

theorem Inside.ahead_accept (inside : cursor.Inside) (accepted : Char → Bool) :
    cursor.Ahead (cursor.accept accepted).2 := by
  cases taken : cursor.accept accepted with
  | mk found next =>
    cases found with
    | some c =>
      obtain ⟨first, -, rfl⟩ := accept_eq_some_iff.1 taken
      exact inside.ahead_next first
    | none =>
      obtain ⟨-, rfl⟩ := accept_eq_none_iff.1 taken
      exact inside.ahead

theorem Inside.ahead_readWhile (inside : cursor.Inside) (accepted : Char → Bool) :
    cursor.Ahead (cursor.readWhile accepted).2 :=
  ⟨rfl, Nat.le_add_right _ _, inside.readWhile accepted⟩

/-! ### Characters that are required -/

theorem expect_of_accept {expected : String} (taken : cursor.accept accepted = (some c, next)) :
    cursor.expect accepted expected = (.ok c, next) := by
  rw [expect, taken]

theorem expect_of_refuse {expected : String} (refused : cursor.accept accepted = (none, next)) :
    cursor.expect accepted expected = (.error ⟨expected, next.peek⟩, next) := by
  rw [expect, refused]

theorem snd_expect (accepted : Char → Bool) (expected : String) (cursor : Cursor) :
    (cursor.expect accepted expected).2 = (cursor.accept accepted).2 := by
  cases taken : cursor.accept accepted with
  | mk found next =>
    cases found with
    | some c => rw [expect_of_accept taken]
    | none => rw [expect_of_refuse taken]

theorem expect_eq_error_iff {expected : String} {mismatch : Mismatch} :
    cursor.expect accepted expected = (.error mismatch, next) ↔
      (∀ c ∈ cursor.rest.head?, accepted c = false) ∧ mismatch = ⟨expected, cursor.rest.head?⟩ ∧
        next = cursor := by
  cases taken : cursor.accept accepted with
  | mk found after =>
    cases found with
    | some c =>
      obtain ⟨first, fits, -⟩ := accept_eq_some_iff.1 taken
      rw [expect_of_accept taken]
      simp [first, fits]
    | none =>
      obtain ⟨refused, rfl⟩ := accept_eq_none_iff.1 taken
      rw [expect_of_refuse taken, Prod.mk.injEq, Except.error.injEq]
      exact ⟨fun ⟨same, stays⟩ => ⟨refused, same.symm, stays.symm⟩,
        fun ⟨_, same, stays⟩ => ⟨same.symm, stays.symm⟩⟩

theorem expect_eq_ok_iff {expected : String} :
    cursor.expect accepted expected = (.ok c, next) ↔ cursor.accept accepted = (some c, next) := by
  cases taken : cursor.accept accepted with
  | mk found after =>
    cases found with
    | some d =>
      rw [expect_of_accept taken]
      simp
    | none =>
      rw [expect_of_refuse taken]
      simp

/-! ### What stands between two places -/

/-- The run is what stands in the text from `start` up to `stop`. -/
structure Stands (text : List Char) (start stop : Nat) (run : String) : Prop where
  length : start + run.toList.length = stop
  chars : ∀ i, i < run.toList.length → run.toList[i]? = text[start + i]?

theorem Stands.forward (stands : Stands text start stop run) : start ≤ stop := by
  have length := stands.length
  omega

theorem stands_empty (text : List Char) (place : Nat) : Stands text place place "" :=
  ⟨rfl, fun _ inside => absurd inside (Nat.not_lt_zero _)⟩

theorem stands_singleton (here : text[place]? = some c) :
    Stands text place (place + 1) (String.singleton c) where
  length := by simp
  chars := by
    intro i inside
    obtain rfl : i = 0 := by simpa using inside
    simp [here]

/-- Runs that follow one another are one run. -/
theorem Stands.append (first : Stands text start middle run) (second : Stands text middle stop more) :
    Stands text start stop (run ++ more) where
  length := by
    rw [String.toList_append, List.length_append, ← Nat.add_assoc, first.length, second.length]
  chars := by
    intro i inside
    rw [String.toList_append, List.length_append] at inside
    rw [String.toList_append]
    by_cases early : i < run.toList.length
    · rw [List.getElem?_append_left early, first.chars i early]
    · have late : run.toList.length ≤ i := Nat.le_of_not_lt early
      have place : middle + (i - run.toList.length) = start + i := by
        rw [← first.length]
        omega
      rw [List.getElem?_append_right late, second.chars _ (by omega), place]

theorem Stands.unique (stands : Stands text start stop run) (stands' : Stands text start stop more) :
    run = more := by
  have same : run.toList.length = more.toList.length :=
    Nat.add_left_cancel (stands.length.trans stands'.length.symm)
  refine String.toList_injective (List.ext_getElem? fun i => ?_)
  by_cases inside : i < run.toList.length
  · rw [stands.chars i inside, stands'.chars i (same ▸ inside)]
  · rw [List.getElem?_eq_none (Nat.le_of_not_lt inside),
      List.getElem?_eq_none (same ▸ Nat.le_of_not_lt inside)]

/-- A slice that does not go backwards nor past the end is what stands between its two places. -/
theorem slice_stands {first last : Bookmark} (forward : first.offset ≤ last.offset)
    (within : last.offset ≤ cursor.text.length) :
    ∃ run, cursor.slice first last = some run ∧
      Stands cursor.text first.offset last.offset run := by
  refine ⟨_, if_pos ⟨forward, within⟩, ?_, ?_⟩
  · simp only [String.toList_ofList, List.length_take, List.length_drop]
    omega
  · intro i inside
    simp only [String.toList_ofList, List.length_take, List.length_drop] at inside ⊢
    rw [List.getElem?_take_of_lt (by omega), List.getElem?_drop]

theorem slice_eq_none_iff {first last : Bookmark} (within : last.offset ≤ cursor.text.length) :
    cursor.slice first last = none ↔ last.offset < first.offset := by
  simp [slice, within]

theorem slice_eq_some_iff {first last : Bookmark} (within : last.offset ≤ cursor.text.length) :
    cursor.slice first last = some run ↔ Stands cursor.text first.offset last.offset run := by
  constructor
  · intro taken
    rcases Nat.lt_or_ge last.offset first.offset with backward | forward
    · rw [(slice_eq_none_iff within).2 backward] at taken
      cases taken
    · obtain ⟨run', taken', stands⟩ := slice_stands forward within
      rw [taken] at taken'
      cases taken'
      exact stands
  · intro stands
    obtain ⟨run', taken, stands'⟩ := slice_stands stands.forward within
    rw [taken, stands'.unique stands]

/-! ### Where a run and a search end -/

/-- From `start` on, a character that satisfies `wanted` stands for the first time at `place`; if there
is none, `place` is the end of the text. -/
structure FirstFrom (wanted : Char → Bool) (text : List Char) (start place : Nat) : Prop where
  ahead : start ≤ place
  inside : place ≤ text.length
  passed : ∀ i, start ≤ i → i < place → ∀ c ∈ text[i]?, wanted c = false
  found : ∀ c ∈ text[place]?, wanted c = true

theorem firstFrom_here (inside : place ≤ text.length) (found : ∀ c ∈ text[place]?, wanted c = true) :
    FirstFrom wanted text place place :=
  ⟨Nat.le_refl _, inside, fun _ ahead before => absurd before (Nat.not_lt_of_le ahead), found⟩

theorem FirstFrom.of_next (later : FirstFrom wanted text (start + 1) place)
    (passed : ∀ c ∈ text[start]?, wanted c = false) : FirstFrom wanted text start place where
  ahead := Nat.le_of_succ_le later.ahead
  inside := later.inside
  passed := by
    intro i ahead before
    rcases Nat.eq_or_lt_of_le ahead with rfl | after
    · exact passed
    · exact later.passed i after before
  found := later.found

/-- A run goes on as long as the next character is accepted. -/
theorem readWhile_of_accept (taken : cursor.accept accepted = (some c, next)) :
    cursor.readWhile accepted =
      (String.singleton c ++ (next.readWhile accepted).1, (next.readWhile accepted).2) := by
  obtain ⟨first, fits, rfl⟩ := accept_eq_some_iff.1 taken
  have longer : cursor.rest.takeWhile accepted =
      c :: (cursor.advance 1).rest.takeWhile accepted := by
    rw [rest_of_head? first, List.takeWhile_cons_of_pos fits]
  rw [readWhile, readWhile, longer, String.singleton_eq_ofList, ← String.ofList_append]
  simp only [advance, List.length_cons, List.singleton_append, Nat.add_assoc, Nat.add_comm 1]

theorem readWhile_of_refuse (refused : cursor.accept accepted = (none, next)) :
    cursor.readWhile accepted = ("", cursor) := by
  obtain ⟨refused, -⟩ := accept_eq_none_iff.1 refused
  have empty : cursor.rest.takeWhile accepted = [] := by
    cases whole : cursor.rest with
    | nil => rfl
    | cons c tail =>
      rw [whole] at refused
      exact List.takeWhile_cons_of_neg (by simp [refused c rfl])
  rw [readWhile, empty]
  rfl

/-- A run ends at the first character that is refused, and is what stands up to there. -/
theorem Inside.readWhile_ends (inside : cursor.Inside) (accepted : Char → Bool) :
    FirstFrom (fun c => !accepted c) cursor.text cursor.offset (cursor.readWhile accepted).2.offset ∧
      Stands cursor.text cursor.offset (cursor.readWhile accepted).2.offset
        (cursor.readWhile accepted).1 := by
  -- one character of the run after the other
  induction left : cursor.rest.length using Nat.strongRecOn generalizing cursor with
  | ind count ih =>
    cases taken : cursor.accept accepted with
    | mk found next =>
      cases found with
      | some c =>
        have shorter := shorter_of_accept taken
        have further := (inside.ahead_accept accepted).inside
        rw [taken] at further
        obtain ⟨ends, stands⟩ := ih _ (left ▸ shorter) further rfl
        obtain ⟨first, fits, rfl⟩ := accept_eq_some_iff.1 taken
        rw [head?_rest] at first
        rw [readWhile_of_accept taken]
        refine ⟨ends.of_next fun c' here => ?_, (stands_singleton first).append stands⟩
        cases first.symm.trans here
        simp [fits]
      | none =>
        obtain ⟨refused, -⟩ := accept_eq_none_iff.1 taken
        rw [head?_rest] at refused
        rw [readWhile_of_refuse taken]
        refine ⟨firstFrom_here inside ?_, stands_empty _ _⟩
        intro c here
        simp [refused c here]

theorem Inside.slice_readWhile (inside : cursor.Inside) (accepted : Char → Bool) :
    cursor.slice cursor.bookmark (cursor.readWhile accepted).2.bookmark =
      some (cursor.readWhile accepted).1 :=
  (slice_eq_some_iff (inside.readWhile accepted)).2 (inside.readWhile_ends accepted).2

theorem Inside.seek_ends (inside : cursor.Inside) (wanted : Char → Bool) :
    FirstFrom wanted cursor.text cursor.offset (cursor.seek wanted).2.offset := by
  have ends := (inside.readWhile_ends fun c => !wanted c).1
  simp only [Bool.not_not] at ends
  exact ends

theorem fst_seek (wanted : Char → Bool) (cursor : Cursor) :
    (cursor.seek wanted).1 = decide ((cursor.seek wanted).2.offset < cursor.text.length) := by
  change (cursor.seek wanted).2.peek.isSome = _
  rw [peek, head?_rest, Bool.eq_iff_iff, decide_eq_true_iff, isSome_getElem?]
  rfl

end StyleTokens.Cursor
