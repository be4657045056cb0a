import StyleTokens.Cursor.Program
import StyleTokens.Proofs.Cursor.Search

/-! What a sequence of cursor operations keeps. The position and the bookmarks never leave the text, and
only a jump to a bookmark leads back. So from wherever a sequence has led, a search ends where it should,
and two bookmarks in order have a slice between them. -/

set_option autoImplicit false

namespace StyleTokens.Cursor

variable {text : List Char} {machine next : Machine} {step : Step}

/-! ### One step -/

/-- What a step may do to a machine: read on, take a bookmark or jump to one that was taken. -/
inductive Machine.Moves (machine : Machine) : Step → Machine → Prop where
  | ahead {step : Step} {cursor : Cursor} :
      machine.cursor.Ahead cursor → Moves machine step { machine with cursor }
  | mark :
      Moves machine .bookmark
        { machine with bookmarks := machine.bookmarks ++ [machine.cursor.bookmark] }
  | jump {index : Nat} {mark : Bookmark} : machine.bookmarks[index]? = some mark →
      Moves machine (.goto index) { machine with cursor := machine.cursor.goto mark }

theorem Step.run_moves (step : Step) (inside : machine.cursor.Inside) :
    machine.Moves step (step.run machine).2 := by
  have stays : ∀ step, machine.Moves step machine := fun step => .ahead inside.ahead
  cases step with
  | peek => exact stays _
  | read => exact .ahead inside.ahead_read
  | readWhile accepted => exact .ahead (inside.ahead_readWhile accepted)
  | accept accepted => exact .ahead (inside.ahead_accept accepted)
  | expect accepted expected =>
    have ahead := inside.ahead_accept accepted
    rw [← snd_expect accepted expected] at ahead
    exact .ahead ahead
  | skipSpaces => exact .ahead (inside.ahead_readWhile Text.isBlank)
  | seek wanted => exact .ahead (inside.ahead_readWhile fun c => !wanted c)
  | isAtEnd => exact stays _
  | bookmark => exact .mark
  | goto index =>
    rw [run]
    split
    · next taken => exact .jump taken
    · exact stays _
  | slice start stop =>
    rw [run]
    split <;> exact stays _
  | compare first second =>
    rw [run]
    split <;> exact stays _

/-- A machine over a text whose position and bookmarks are places of the text or its end. -/
structure Machine.Within (text : List Char) (machine : Machine) : Prop where
  same : machine.cursor.text = text
  position : machine.cursor.offset ≤ text.length
  bookmarks : ∀ mark ∈ machine.bookmarks, mark.offset ≤ text.length

namespace Machine

theorem within_ofString (text : String) : (ofString text).Within text.toList :=
  ⟨rfl, Nat.zero_le _, fun _ taken => absurd taken List.not_mem_nil⟩

theorem Within.inside (within : machine.Within text) : machine.cursor.Inside := by
  rw [Inside, within.same]
  exact within.position

theorem Within.moves (within : machine.Within text) (moves : machine.Moves step next) :
    next.Within text := by
  cases moves with
  | ahead ahead =>
    have inside := ahead.inside
    rw [Inside, ahead.text, within.same] at inside
    exact ⟨ahead.text.trans within.same, inside, within.bookmarks⟩
  | mark =>
    refine ⟨within.same, within.position, fun mark taken => ?_⟩
    rcases List.mem_append.1 taken with before | now
    · exact within.bookmarks mark before
    · rw [List.mem_singleton.1 now]
      exact within.position
  | jump taken =>
    exact ⟨within.same, within.bookmarks _ (List.mem_of_getElem? taken), within.bookmarks⟩

theorem Moves.bookmarks (moves : machine.Moves step next) :
    machine.bookmarks <+: next.bookmarks := by
  cases moves with
  | ahead => exact List.prefix_refl _
  | mark => exact List.prefix_append _ _
  | jump => exact List.prefix_refl _

theorem Moves.forward (moves : machine.Moves step next) (stays : ∀ index, step ≠ .goto index) :
    machine.cursor.offset ≤ next.cursor.offset := by
  cases moves with
  | ahead ahead => exact ahead.forward
  | mark => exact Nat.le_refl _
  | @jump index => exact absurd rfl (stays index)

end Machine

/-! ### Runs -/

theorem run_append (before after : List Step) (machine : Machine) :
    run (before ++ after) machine =
      ((run before machine).1 ++ (run after (run before machine).2).1,
        (run after (run before machine).2).2) := by
  induction before generalizing machine with
  | nil => rfl
  | cons step before ih => simp only [List.cons_append, run, ih]

theorem within_run (within : machine.Within text) (steps : List Step) :
    (run steps machine).2.Within text ∧ ∀ entry ∈ (run steps machine).1, entry.2 ≤ text.length := by
  induction steps generalizing machine with
  | nil => exact ⟨within, fun _ none => absurd none List.not_mem_nil⟩
  | cons step steps ih =>
    have further := within.moves (step.run_moves within.inside)
    obtain ⟨later, entries⟩ := ih further
    exact ⟨later, List.forall_mem_cons.2 ⟨further.position, entries⟩⟩

/-- Without a jump the positions ascend. -/
theorem ascending_run (within : machine.Within text) {steps : List Step}
    (reads : ∀ step ∈ steps, ∀ index, step ≠ .goto index) :
    (machine.cursor.offset :: (run steps machine).1.map Prod.snd).Pairwise (· ≤ ·) := by
  induction steps generalizing machine with
  | nil => exact List.pairwise_singleton _ _
  | cons step steps ih =>
    obtain ⟨first, reads⟩ := List.forall_mem_cons.1 reads
    have moves := step.run_moves within.inside
    have later := ih (within.moves moves) reads
    rw [run, List.map_cons]
    refine List.pairwise_cons.2 ⟨?_, later⟩
    intro position reached
    rcases List.mem_cons.1 reached with rfl | reached
    · exact moves.forward first
    · exact Nat.le_trans (moves.forward first) ((List.pairwise_cons.1 later).1 position reached)

/-! ### What the steps answer -/

/-- The machine with its cursor at another place of the text. -/
def Machine.movedTo (machine : Machine) (place : Nat) : Machine :=
  ⟨⟨machine.cursor.text, place⟩, machine.bookmarks⟩

theorem run_goto {index : Nat} {mark : Bookmark} (taken : machine.bookmarks[index]? = some mark) :
    (Step.goto index).run machine = (.nothing, machine.movedTo mark.offset) := by
  simp only [Step.run, taken]
  rfl

theorem run_slice {i j : Nat} {start stop : Bookmark} (first : machine.bookmarks[i]? = some start)
    (last : machine.bookmarks[j]? = some stop) :
    (Step.slice i j).run machine = (.slice (machine.cursor.slice start stop), machine) := by
  simp only [Step.run, first, last]

theorem run_read (machine : Machine) :
    Step.read.run machine =
      match machine.cursor.text[machine.cursor.offset]? with
      | some c => (.character (some c), machine.movedTo (machine.cursor.offset + 1))
      | none => (.character none, machine) := by
  simp only [Step.run, read, peek, ← head?_rest]
  cases machine.cursor.rest.head? <;> rfl

theorem run_accept_eq_iff {accepted : Char → Bool} {found : Option Char} :
    (Step.accept accepted).run machine = (.character found, next) ↔
      ∃ cursor, machine.cursor.accept accepted = (found, cursor) ∧
        next = { machine with cursor } := by
  cases taken : machine.cursor.accept accepted with
  | mk found cursor =>
    simp only [Step.run, taken, Prod.mk.injEq, Answer.character.injEq]
    constructor
    · rintro ⟨rfl, rfl⟩
      exact ⟨cursor, ⟨rfl, rfl⟩, rfl⟩
    · rintro ⟨_, ⟨rfl, rfl⟩, rfl⟩
      exact ⟨rfl, rfl⟩

theorem run_expect_eq_iff {accepted : Char → Bool} {expected : String}
    {outcome : Except Mismatch Char} :
    (Step.expect accepted expected).run machine = (.expected outcome, next) ↔
      ∃ cursor, machine.cursor.expect accepted expected = (outcome, cursor) ∧
        next = { machine with cursor } := by
  cases taken : machine.cursor.expect accepted expected with
  | mk outcome cursor =>
    simp only [Step.run, taken, Prod.mk.injEq, Answer.expected.injEq]
    constructor
    · rintro ⟨rfl, rfl⟩
      exact ⟨cursor, ⟨rfl, rfl⟩, rfl⟩
    · rintro ⟨_, ⟨rfl, rfl⟩, rfl⟩
      exact ⟨rfl, rfl⟩

theorem run_accept_eq_some_iff {accepted : Char → Bool} {c : Char} :
    (Step.accept accepted).run machine = (.character (some c), next) ↔
      machine.cursor.text[machine.cursor.offset]? = some c ∧ accepted c = true ∧
        next = machine.movedTo (machine.cursor.offset + 1) := by
  rw [run_accept_eq_iff, ← head?_rest]
  simp only [accept_eq_some_iff]
  constructor
  · rintro ⟨_, ⟨first, fits, rfl⟩, rfl⟩
    exact ⟨first, fits, rfl⟩
  · rintro ⟨first, fits, rfl⟩
    exact ⟨_, ⟨first, fits, rfl⟩, rfl⟩

theorem run_accept_eq_none_iff {accepted : Char → Bool} :
    (Step.accept accepted).run machine = (.character none, next) ↔
      (∀ c ∈ machine.cursor.text[machine.cursor.offset]?, accepted c = false) ∧ next = machine := by
  rw [run_accept_eq_iff, ← head?_rest]
  simp only [accept_eq_none_iff]
  constructor
  · rintro ⟨_, ⟨refused, rfl⟩, rfl⟩
    exact ⟨refused, rfl⟩
  · rintro ⟨refused, rfl⟩
    exact ⟨_, ⟨refused, rfl⟩, rfl⟩

theorem run_expect_eq_ok_iff {accepted : Char → Bool} {expected : String} {c : Char} :
    (Step.expect accepted expected).run machine = (.expected (.ok c), next) ↔
      machine.cursor.text[machine.cursor.offset]? = some c ∧ accepted c = true ∧
        next = machine.movedTo (machine.cursor.offset + 1) := by
  rw [← run_accept_eq_some_iff, run_accept_eq_iff, run_expect_eq_iff]
  simp only [expect_eq_ok_iff]

theorem run_expect_eq_error_iff {accepted : Char → Bool} {expected : String} {mismatch : Mismatch} :
    (Step.expect accepted expected).run machine = (.expected (.error mismatch), next) ↔
      (∀ c ∈ machine.cursor.text[machine.cursor.offset]?, accepted c = false) ∧
        mismatch = ⟨expected, machine.cursor.text[machine.cursor.offset]?⟩ ∧ next = machine := by
  rw [run_expect_eq_iff, ← head?_rest]
  simp only [expect_eq_error_iff]
  constructor
  · rintro ⟨_, ⟨refused, rfl, rfl⟩, rfl⟩
    exact ⟨refused, rfl, rfl⟩
  · rintro ⟨refused, rfl, rfl⟩
    exact ⟨_, ⟨refused, rfl, rfl⟩, rfl⟩

theorem jump_of_back (within : machine.Within text)
    (back : (step.run machine).2.cursor.offset < machine.cursor.offset) :
    ∃ index mark, step = .goto index ∧ machine.bookmarks[index]? = some mark ∧
      step.run machine = (.nothing, machine.movedTo mark.offset) := by
  by_cases stays : ∀ index, step ≠ .goto index
  · have forward := (step.run_moves within.inside).forward stays
    exact absurd back (Nat.not_lt_of_le forward)
  · obtain ⟨index, rfl⟩ : ∃ index, step = .goto index := by simpa using stays
    cases taken : machine.bookmarks[index]? with
    | none =>
      simp only [Step.run, taken] at back
      exact absurd back (Nat.lt_irrefl _)
    | some mark => exact ⟨index, mark, rfl, taken, run_goto taken⟩

/-- A machine over a text, with what holds of every step that it can take next. -/
structure Machine.Orderly (text : List Char) (machine : Machine) : Prop where
  within : machine.Within text
  ended : text[machine.cursor.offset]? = none ↔ machine.cursor.offset = text.length
  /-- Bookmarks stay as they were taken. -/
  kept : ∀ step : Step, machine.bookmarks <+: (step.run machine).2.bookmarks
  bookmark : ∃ index next, Step.bookmark.run machine = (.index index, next) ∧
    next.bookmarks[index]? = some ⟨machine.cursor.offset⟩ ∧ next.cursor = machine.cursor
  goto : ∀ index mark, machine.bookmarks[index]? = some mark →
    (Step.goto index).run machine = (.nothing, machine.movedTo mark.offset)
  /-- Only a jump leads back, and it leads to a bookmark. -/
  back : ∀ step : Step, (step.run machine).2.cursor.offset < machine.cursor.offset →
    ∃ index mark, step = .goto index ∧ machine.bookmarks[index]? = some mark ∧
      step.run machine = (.nothing, machine.movedTo mark.offset)
  ascending : ∀ steps : List Step, (∀ step ∈ steps, ∀ index, step ≠ .goto index) →
    (machine.cursor.offset :: (run steps machine).1.map Prod.snd).Pairwise (· ≤ ·)
  read : Step.read.run machine =
    match text[machine.cursor.offset]? with
    | some c => (.character (some c), machine.movedTo (machine.cursor.offset + 1))
    | none => (.character none, machine)
  accept : ∀ accepted c next, (Step.accept accepted).run machine = (.character (some c), next) ↔
    text[machine.cursor.offset]? = some c ∧ accepted c = true ∧
      next = machine.movedTo (machine.cursor.offset + 1)
  refuse : ∀ accepted next, (Step.accept accepted).run machine = (.character none, next) ↔
    (∀ c ∈ text[machine.cursor.offset]?, accepted c = false) ∧ next = machine
  expect : ∀ accepted expected c next,
    (Step.expect accepted expected).run machine = (.expected (.ok c), next) ↔
      text[machine.cursor.offset]? = some c ∧ accepted c = true ∧
        next = machine.movedTo (machine.cursor.offset + 1)
  mismatch : ∀ accepted expected mismatch next,
    (Step.expect accepted expected).run machine = (.expected (.error mismatch), next) ↔
      (∀ c ∈ text[machine.cursor.offset]?, accepted c = false) ∧
        mismatch = ⟨expected, text[machine.cursor.offset]?⟩ ∧ next = machine
  readWhile : ∀ accepted, ∃ run stop,
    (Step.readWhile accepted).run machine = (.text run, machine.movedTo stop) ∧
      FirstFrom (fun c => !accepted c) text machine.cursor.offset stop ∧
      Stands text machine.cursor.offset stop run ∧
      machine.cursor.slice ⟨machine.cursor.offset⟩ ⟨stop⟩ = some run
  skipSpaces : ∃ stop, Step.skipSpaces.run machine = (.nothing, machine.movedTo stop) ∧
    FirstFrom (fun c => !Text.isBlank c) text machine.cursor.offset stop
  seek : ∀ wanted, ∃ stop,
    (Step.seek wanted).run machine = (.truth (stop < text.length), machine.movedTo stop) ∧
      FirstFrom wanted text machine.cursor.offset stop
  /-- There is no slice exactly if its end comes before its start. -/
  backward : ∀ i j start stop, machine.bookmarks[i]? = some start → machine.bookmarks[j]? = some stop →
    ((Step.slice i j).run machine = (.slice none, machine) ↔ stop.offset < start.offset)
  slice : ∀ i j start stop, machine.bookmarks[i]? = some start → machine.bookmarks[j]? = some stop →
    start.offset ≤ stop.offset → ∃ run, (Step.slice i j).run machine = (.slice (some run), machine) ∧
      Stands text start.offset stop.offset run
  adjacent : ∀ i j k start middle stop, machine.bookmarks[i]? = some start →
    machine.bookmarks[j]? = some middle → machine.bookmarks[k]? = some stop →
    start.offset ≤ middle.offset → middle.offset ≤ stop.offset → ∃ first second,
      (Step.slice i j).run machine = (.slice (some first), machine) ∧
      (Step.slice j k).run machine = (.slice (some second), machine) ∧
      (Step.slice i k).run machine = (.slice (some (first ++ second)), machine)

theorem Machine.Within.orderly (within : machine.Within text) : machine.Orderly text := by
  have inside := within.inside
  obtain rfl := within.same
  have last : ∀ {index : Nat} {mark : Bookmark}, machine.bookmarks[index]? = some mark →
      mark.offset ≤ machine.cursor.text.length :=
    fun taken => within.bookmarks _ (List.mem_of_getElem? taken)
  constructor
  case within => exact within
  case ended =>
    rw [List.getElem?_eq_none_iff]
    exact ⟨fun past => Nat.le_antisymm within.position past, fun ended => Nat.le_of_eq ended.symm⟩
  case kept => exact fun step => (step.run_moves inside).bookmarks
  case bookmark => exact ⟨_, _, rfl, List.getElem?_concat_length, rfl⟩
  case goto => exact fun index mark => run_goto
  case back => exact fun step => jump_of_back within
  case ascending => exact fun steps => ascending_run within
  case read => exact run_read machine
  case accept => exact fun accepted c next => run_accept_eq_some_iff
  case refuse => exact fun accepted next => run_accept_eq_none_iff
  case expect => exact fun accepted expected c next => run_expect_eq_ok_iff
  case mismatch => exact fun accepted expected mismatch next => run_expect_eq_error_iff
  case readWhile =>
    intro accepted
    obtain ⟨ends, stands⟩ := inside.readWhile_ends accepted
    exact ⟨_, _, rfl, ends, stands, inside.slice_readWhile accepted⟩
  case skipSpaces => exact ⟨_, rfl, (inside.readWhile_ends Text.isBlank).1⟩
  case seek =>
    intro wanted
    refine ⟨_, ?_, inside.seek_ends wanted⟩
    rw [← fst_seek]
    rfl
  case backward =>
    intro i j start stop first second
    rw [run_slice first second, ← slice_eq_none_iff (last second)]
    simp
  case slice =>
    intro i j start stop first second forward
    obtain ⟨run, taken, stands⟩ := slice_stands forward (last second)
    exact ⟨run, by rw [run_slice first second, taken], stands⟩
  case adjacent =>
    intro i j k start middle stop first second third forward forward'
    obtain ⟨run, taken, stands⟩ := slice_stands forward (last second)
    obtain ⟨run', taken', stands'⟩ := slice_stands forward' (last third)
    have joined := (slice_eq_some_iff (last third)).2 (stands.append stands')
    refine ⟨run, run', ?_, ?_, ?_⟩
    · rw [run_slice first second, taken]
    · rw [run_slice second third, taken']
    · rw [run_slice first third, joined]

/-- Whatever steps a cursor takes over a text, it comes out orderly: its position and its bookmarks are
in the text, only a jump leads it back, and what it reads or refuses, where its searches end and which
slices there are follows from the characters of the text. No step of the sequence leaves the text, and the
steps that follow answer as they would have from there. -/
theorem orderly_run (text : String) (steps : List Step) :
    let start := Machine.ofString text
    let reached := (run steps start).2
    reached.Orderly text.toList ∧
      (∀ entry ∈ (run steps start).1, entry.2 ≤ text.toList.length) ∧
      ∀ (step : Step) (later : List Step),
        let (answer, next) := step.run reached
        run (steps ++ step :: later) start =
          ((run steps start).1 ++ (answer, next.cursor.offset) :: (run later next).1,
            (run later next).2) := by
  intro start reached
  obtain ⟨within, entries⟩ := within_run (Machine.within_ofString text) steps
  exact ⟨within.orderly, entries, fun step later => run_append steps (step :: later) start⟩

-- A run is read again after a jump back; a slice from the later bookmark to the earlier one is none.
example :
    let steps : List Step := [.seek (· == '$'), .bookmark, .read, .expect (· == 'y') "y", .bookmark,
      .goto 0, .readWhile (· != ' '), .slice 0 1, .slice 1 0]
    (run steps (.ofString "🎨$x y")).1 = [(.truth true, 1), (.index 0, 1),
      (.character (some '$'), 2), (.expected (.error ⟨"y", some 'x'⟩), 2), (.index 1, 2),
      (.nothing, 1), (.text "$x", 3), (.slice (some "$"), 3), (.slice none, 3)] := by
  rfl

end StyleTokens.Cursor
