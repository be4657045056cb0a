import StyleTokens.Text.Blank
import StyleTokens.Text.Normal

/-! What the normal form leaves in place. Some characters take no part in any composition, among them
all blanks, quotes, commas and parentheses. They stay where they are, and what stands between two of
them is brought into normal form by itself. -/

set_option autoImplicit false

namespace StyleTokens.Text

/-! ### Characters that take no part in compositions -/

-- There are more of them. Comparisons that the kernel computes with, since the tables are long.
def isInertCode (code : Nat) : Bool :=
  bif Nat.ble code 0xA0 then
    (Nat.ble 0x01 code && Nat.ble code 0x2F) || Nat.beq code 0x5C || Nat.ble 0x80 code
  else Nat.beq code 0x1680 || (Nat.ble 0x2000 code && Nat.ble code 0x205F) || Nat.beq code 0x3000

def isInert (c : Char) : Bool := isInertCode c.toNat

/-- Two of the blanks stand for others of the same width. -/
def settledCode (code : Nat) : Nat :=
  if code = 0x2000 then 0x2002 else if code = 0x2001 then 0x2003 else code

def settled (c : Char) : Char := Char.ofNat (settledCode c.toNat)

theorem isInertCode_iff {code : Nat} : isInertCode code ↔
    (0x01 ≤ code ∧ code ≤ 0x2F) ∨ code = 0x5C ∨ (0x80 ≤ code ∧ code ≤ 0xA0) ∨ code = 0x1680 ∨
      (0x2000 ≤ code ∧ code ≤ 0x205F) ∨ code = 0x3000 := by
  rw [isInertCode, cond_eq_ite]
  split <;> next side =>
    simp only [Bool.or_eq_true, Bool.and_eq_true, Nat.ble_eq, Nat.beq_eq] at side ⊢
    omega

theorem isInert_of_isBlank {c : Char} (blank : isBlank c) : isInert c := by
  simp only [isBlank, inRanges, blankRanges, List.any_cons, List.any_nil, Bool.or_eq_true,
    Bool.and_eq_true, decide_eq_true_eq, Bool.false_eq_true, or_false] at blank
  rw [isInert, isInertCode_iff]
  omega

theorem isInertCode_settledCode {code : Nat} (inert : isInertCode code) :
    isInertCode (settledCode code) := by
  unfold settledCode
  split
  · decide
  · split
    · decide
    · exact inert

/-! ### The tables -/

/-- Whether an interval of code points beyond the first ones has nothing inert in it. -/
def isActiveRange (first last : Nat) : Bool :=
  0xA0 < first && (last < 0x1680 || (0x1680 < first && last < 0x2000) ||
    (0x205F < first && last < 0x3000) || 0x3000 < first)

theorem active_of_range {first last code : Nat} (active : isActiveRange first last)
    (above : first ≤ code) (below : code ≤ last) : isInertCode code = false := by
  simp only [isActiveRange, Bool.or_eq_true, Bool.and_eq_true, decide_eq_true_eq] at active
  rw [Bool.eq_false_iff, Ne, isInertCode_iff]
  omega

-- One pass over each table, for the low characters and for the inert ones.
theorem tables_scope :
    (composites.all fun entry => (0xC0 ≤ entry.1 && 0x300 ≤ entry.2.2) &&
      (!isInertCode entry.1 && !isInertCode entry.2.1 && !isInertCode entry.2.2)) ∧
    (sequences.all fun entry => 0x300 ≤ entry.1 &&
      (!isInertCode entry.1 && entry.2 != [] && entry.2.all (!isInertCode ·))) ∧
    (equivalents.all fun run => 0x300 ≤ run.1 && (run == (0x2000, [0x2002, 0x2003]) ||
      (isActiveRange run.1 (run.1 + run.2.length - 1) && run.2.all (!isInertCode ·)))) ∧
    combiningRuns.all fun run => 0x300 ≤ run.1 && isActiveRange run.1 run.2.1 := by
  decide +kernel

theorem sequence_scope {entry : Nat × List Nat} (inside : entry ∈ sequences) :
    0x300 ≤ entry.1 ∧ isInertCode entry.1 = false ∧ entry.2 ≠ [] ∧
      ∀ part ∈ entry.2, isInertCode part = false := by
  have scope := List.all_eq_true.1 tables_scope.2.1 _ inside
  simpa only [Bool.and_eq_true, decide_eq_true_eq, Bool.not_eq_true', bne_iff_ne,
    List.all_eq_true, and_assoc] using scope

theorem equivalent_scope {run : Nat × List Nat} (inside : run ∈ equivalents) :
    0x300 ≤ run.1 ∧ (run = (0x2000, [0x2002, 0x2003]) ∨
      (isActiveRange run.1 (run.1 + run.2.length - 1) ∧
        ∀ part ∈ run.2, isInertCode part = false)) := by
  have scope := List.all_eq_true.1 tables_scope.2.2.1 _ inside
  simpa only [Bool.and_eq_true, Bool.or_eq_true, decide_eq_true_eq, beq_iff_eq,
    Bool.not_eq_true', List.all_eq_true] using scope

theorem combining_scope {run : Nat × Nat × Nat} (inside : run ∈ combiningRuns) :
    0x300 ≤ run.1 ∧ isActiveRange run.1 run.2.1 := by
  have scope := List.all_eq_true.1 tables_scope.2.2.2 _ inside
  simpa only [Bool.and_eq_true, decide_eq_true_eq] using scope

theorem blanks_listed : (0x2000, [0x2002, 0x2003]) ∈ equivalents := List.mem_of_getElem? (i := 8) rfl

/-! ### One character -/

section Codes

variable {code first second : Nat}

theorem combiningClass_eq_zero (outside : ∀ run ∈ combiningRuns, ¬(run.1 ≤ code ∧ code ≤ run.2.1)) :
    combiningClass code = 0 := by
  have none : (combiningRuns.find? fun run => run.1 ≤ code && code ≤ run.2.1) = none := by
    rw [List.find?_eq_none]
    simpa only [Bool.and_eq_true, decide_eq_true_eq] using outside
  rw [combiningClass, none]

theorem combiningClass_of_inert (inert : isInertCode code) : combiningClass code = 0 := by
  refine combiningClass_eq_zero fun run inside within => ?_
  have active := active_of_range (combining_scope inside).2 within.1 within.2
  rw [active] at inert
  cases inert

theorem combiningClass_of_low (low : code < 0x300) : combiningClass code = 0 := by
  refine combiningClass_eq_zero fun run inside within => ?_
  have high := (combining_scope inside).1
  omega

/-- A syllable is composed of a consonant or a syllable, and of a vowel or a consonant that trails. -/
theorem hangul_of_compose? (found : Hangul.compose? first second = some code) :
    0xAC00 ≤ code ∧ 0x1100 ≤ first ∧ (first ≤ 0x1112 ∨ 0xAC00 ≤ first) ∧
      0x1161 ≤ second ∧ second ≤ 0x11C2 := by
  unfold Hangul.compose? Hangul.leading Hangul.leadingCount Hangul.vowels Hangul.vowelCount
    Hangul.syllables Hangul.trailing Hangul.trailingCount at found
  by_cases vowel : 0x1100 ≤ first ∧ first < 0x1100 + 19 ∧ 0x1161 ≤ second ∧ second < 0x1161 + 21
  · rw [if_pos vowel, Option.some_inj] at found
    omega
  · rw [if_neg vowel] at found
    split at found
    · rw [Option.some_inj] at found
      omega
    · cases found

theorem composite_of_compose? (found : compose? first second = some code) :
    Hangul.compose? first second = some code ∨ (code, first, second) ∈ composites := by
  unfold compose? at found
  split at found
  · next syllable => exact .inl (syllable.trans found)
  · obtain ⟨entry, inside, rfl⟩ := Option.map_eq_some_iff.1 found
    have parts := List.find?_some inside
    rw [Bool.and_eq_true, beq_iff_eq, beq_iff_eq] at parts
    rw [← parts.1, ← parts.2]
    exact .inr (List.mem_of_find?_eq_some inside)

theorem high_of_composite (inside : (code, first, second) ∈ composites) :
    0xC0 ≤ code ∧ 0x300 ≤ second := by
  have scope := List.all_eq_true.1 tables_scope.1 _ inside
  simp only [Bool.and_eq_true, decide_eq_true_eq] at scope
  exact scope.1

theorem active_of_composite (inside : (code, first, second) ∈ composites) :
    isInertCode code = false ∧ isInertCode first = false ∧ isInertCode second = false := by
  have scope := List.all_eq_true.1 tables_scope.1 _ inside
  simp only [Bool.and_eq_true, Bool.not_eq_true', and_assoc] at scope
  exact scope.2.2

/-- What is composed is of no interest to what is inert, and neither is what it is composed of. -/
theorem active_of_compose? (found : compose? first second = some code) :
    isInertCode code = false ∧ isInertCode first = false ∧ isInertCode second = false := by
  rcases composite_of_compose? found with syllable | inside
  · have bounds := hangul_of_compose? syllable
    simp only [Bool.eq_false_iff, Ne, isInertCode_iff]
    omega
  · exact active_of_composite inside

theorem compose?_of_inert (inert : isInertCode first ∨ isInertCode second) :
    compose? first second = none := by
  rw [Option.eq_none_iff_forall_ne_some]
  intro code found
  have active := active_of_compose? found
  simp [active] at inert

theorem compose?_of_low (low : second < 0x300) : compose? first second = none := by
  rw [Option.eq_none_iff_forall_ne_some]
  intro code found
  rcases composite_of_compose? found with syllable | inside
  · have bounds := hangul_of_compose? syllable
    omega
  · have high := high_of_composite inside
    omega

/-! #### Decompositions -/

theorem hangul_of_decompose? {codes : List Nat} (found : Hangul.decompose? code = some codes) :
    0xAC00 ≤ code ∧ codes ≠ [] ∧ ∀ part ∈ codes, 0x1100 ≤ part ∧ part ≤ 0x11C2 := by
  unfold Hangul.decompose? Hangul.syllables Hangul.leading Hangul.leadingCount Hangul.vowels
    Hangul.vowelCount Hangul.trailing Hangul.trailingCount at found
  dsimp only at found
  by_cases syllable : 0xAC00 ≤ code ∧ code - 0xAC00 < 19 * 21 * 28
  · rw [if_pos syllable, Option.some_inj] at found
    subst found
    refine ⟨syllable.1, by split <;> simp, ?_⟩
    intro part inside
    split at inside <;> simp only [List.mem_cons, List.not_mem_nil, or_false] at inside <;> omega
  · rw [if_neg syllable] at found
    cases found

theorem mem_of_lookup {α : Type} {entries : List (Nat × α)} {value : α}
    (found : entries.lookup code = some value) : (code, value) ∈ entries := by
  obtain ⟨before, after, rfl, -⟩ := List.lookup_eq_some_iff.1 found
  exact List.mem_append_right _ List.mem_cons_self

/-- A character that only decomposes is that of a sequence, or stands in a run of others. -/
theorem equivalent?_cases {codes : List Nat} (found : equivalent? code = some codes) :
    (code, codes) ∈ sequences ∨
      ∃ run ∈ equivalents, ∃ part ∈ run.2, run.1 ≤ code ∧ run.2[code - run.1]? = some part ∧
        codes = [part] := by
  unfold equivalent? at found
  split at found
  · next sequence =>
    cases found
    exact .inl (mem_of_lookup sequence)
  · obtain ⟨run, inside, stands⟩ := List.exists_of_findSome?_eq_some found
    split at stands
    · next start =>
      obtain ⟨part, place, rfl⟩ := Option.map_eq_some_iff.1 stands
      exact .inr ⟨run, inside, part, List.mem_of_getElem? place, start, place, rfl⟩
    · cases stands

theorem beyond_of_equivalent? (kept : equivalent? code = none) {run : Nat × List Nat}
    (inside : run ∈ equivalents) (start : run.1 ≤ code) : run.2[code - run.1]? = none := by
  unfold equivalent? at kept
  split at kept
  · cases kept
  · have stands := List.findSome?_eq_none_iff.1 kept run inside
    rwa [if_pos start, Option.map_eq_none_iff] at stands

theorem equivalent?_of_low (low : code < 0x300) : equivalent? code = none := by
  rw [Option.eq_none_iff_forall_ne_some]
  intro codes found
  rcases equivalent?_cases found with inside | ⟨run, inside, part, -, start, -⟩
  · have high := (sequence_scope inside).1
    omega
  · have high := (equivalent_scope inside).1
    omega

/-- Only two blanks are inert and stand for others, which are inert as well. -/
theorem equivalent?_inert_iff {codes : List Nat} (found : equivalent? code = some codes) :
    (isInertCode code ∧ codes = [settledCode code]) ∨
      (isInertCode code = false ∧ codes ≠ [] ∧ ∀ part ∈ codes, isInertCode part = false) := by
  rcases equivalent?_cases found with inside | ⟨run, inside, part, among, start, place, rfl⟩
  · exact .inr (sequence_scope inside).2
  · rcases (equivalent_scope inside).2 with rfl | ⟨free, active⟩
    · left
      obtain ⟨within, here⟩ := List.getElem?_eq_some_iff.1 place
      have wide : code = 0x2000 ∨ code = 0x2001 := by
        simp only [List.length_cons, List.length_nil] at within
        omega
      rcases wide with rfl | rfl <;> exact ⟨by decide, congrArg (fun part => [part]) here.symm⟩
    · right
      obtain ⟨within, -⟩ := List.getElem?_eq_some_iff.1 place
      refine ⟨active_of_range free start (by omega), by simp, ?_⟩
      simpa using active part among

theorem equivalent?_settled (inert : isInertCode code) :
    (equivalent? code).getD [code] = [settledCode code] := by
  cases found : equivalent? code with
  | some codes =>
    rcases equivalent?_inert_iff found with ⟨-, rfl⟩ | ⟨active, -⟩
    · rfl
    · rw [active] at inert
      cases inert
  | none =>
    have first : code ≠ 0x2000 := by
      rintro rfl
      cases beyond_of_equivalent? found blanks_listed (by decide)
    have second : code ≠ 0x2001 := by
      rintro rfl
      cases beyond_of_equivalent? found blanks_listed (by decide)
    rw [settledCode, if_neg first, if_neg second]
    rfl

theorem decompose_flat (hangul : Hangul.decompose? code = none)
    (outside : ∀ first second, (code, first, second) ∉ composites) (depth : Nat) :
    decompose (depth + 1) code = (equivalent? code).getD [code] := by
  have none : composites.lookup code = none := by
    rw [Option.eq_none_iff_forall_ne_some]
    exact fun parts found => outside _ _ (mem_of_lookup found)
  rw [decompose, hangul, none]

theorem hangul_decompose?_of_low (low : code < 0xAC00) : Hangul.decompose? code = none := by
  rw [Option.eq_none_iff_forall_ne_some]
  intro codes found
  have high := (hangul_of_decompose? found).1
  omega

theorem decompose_of_inert (inert : isInertCode code) (depth : Nat) :
    decompose (depth + 1) code = [settledCode code] := by
  have low : code < 0xAC00 := by
    rw [isInertCode_iff] at inert
    omega
  rw [decompose_flat (hangul_decompose?_of_low low) ?_ depth, equivalent?_settled inert]
  intro first second inside
  have active := (active_of_composite inside).1
  rw [active] at inert
  cases inert

theorem decompose_of_low (low : code < 0xC0) (depth : Nat) : decompose (depth + 1) code = [code] := by
  rw [decompose_flat (hangul_decompose?_of_low (by omega)) ?_ depth, equivalent?_of_low (by omega)]
  · rfl
  · intro first second inside
    have high := high_of_composite inside
    omega

theorem decompose_active (active : isInertCode code = false) (depth : Nat) :
    decompose depth code ≠ [] ∧ ∀ part ∈ decompose depth code, isInertCode part = false := by
  induction depth generalizing code with
  | zero => simpa [decompose] using active
  | succ depth ih =>
    rw [decompose]
    split
    · next codes syllable =>
      obtain ⟨-, filled, range⟩ := hangul_of_decompose? syllable
      refine ⟨filled, fun part inside => ?_⟩
      have bounds := range part inside
      rw [Bool.eq_false_iff, Ne, isInertCode_iff]
      omega
    · split
      · next first second composite =>
        obtain ⟨-, before, last⟩ := active_of_composite (mem_of_lookup composite)
        obtain ⟨filled, parts⟩ := ih before
        refine ⟨List.append_ne_nil_of_left_ne_nil filled _, fun part inside => ?_⟩
        rcases List.mem_append.1 inside with inside | inside
        · exact parts part inside
        · rwa [List.mem_singleton.1 inside]
      · cases found : equivalent? code with
        | none => simpa using active
        | some codes =>
          rcases equivalent?_inert_iff found with ⟨inert, -⟩ | ⟨-, filled, parts⟩
          · rw [active] at inert
            cases inert
          · exact ⟨filled, parts⟩

end Codes

/-! ### Orders and compositions around a starter -/

section Marks

variable {starter : Mark}

theorem place_append (starts : starter.rank = 0) (mark : Mark) (before after : List Mark) :
    place mark (before ++ starter :: after) = place mark before ++ starter :: after := by
  induction before with
  | nil =>
    rw [List.nil_append, place.eq_2, if_neg (by omega)]
    rfl
  | cons next before ih =>
    rw [List.cons_append, place, place]
    split
    · rw [ih, List.cons_append]
    · rfl

theorem place_of_starter (starts : starter.rank = 0) (marks : List Mark) :
    place starter marks = starter :: marks := by
  cases marks with
  | nil => rfl
  | cons next marks => rw [place, if_neg (by omega)]

theorem order_append (starts : starter.rank = 0) (before after : List Mark) :
    order (before ++ starter :: after) = order before ++ starter :: order after := by
  induction before with
  | nil => exact place_of_starter starts (order after)
  | cons next before ih =>
    change place next (order (before ++ starter :: after)) = _
    rw [ih, place_append starts]
    rfl

theorem mem_place {mark other : Mark} {marks : List Mark} :
    other ∈ place mark marks ↔ other = mark ∨ other ∈ marks := by
  induction marks with
  | nil => simp [place]
  | cons next marks ih =>
    rw [place]
    split
    · rw [List.mem_cons, ih, List.mem_cons, or_left_comm]
    · exact List.mem_cons

theorem mem_order {mark : Mark} {marks : List Mark} : mark ∈ order marks ↔ mark ∈ marks := by
  induction marks with
  | nil => rfl
  | cons next marks ih =>
    change mark ∈ place next (order marks) ↔ _
    rw [mem_place, ih, List.mem_cons]

/-- A mark is composed with the starter before it, or starts itself, or passes. -/
theorem composeFrom_cases (code : Nat) (passed : List Mark) (mark : Mark) :
    (∃ composed, compose? code mark.code = some composed ∧
      ∀ marks, composeFrom code passed (mark :: marks) = composeFrom composed passed marks) ∨
    (mark.rank = 0 ∧ ∀ marks, composeFrom code passed (mark :: marks) =
      code :: (passed.reverse.map Mark.code) ++ composeFrom mark.code [] marks) ∨
    (mark.rank ≠ 0 ∧ ∀ marks, composeFrom code passed (mark :: marks) =
      composeFrom code (mark :: passed) marks) := by
  simp only [composeFrom]
  split
  · next composed found =>
    exact .inl ⟨composed, (Option.ite_none_right_eq_some.1 found).2, fun _ => rfl⟩
  · right
    by_cases starts : mark.rank = 0
    · exact .inl ⟨starts, fun _ => if_pos starts⟩
    · exact .inr ⟨starts, fun _ => if_neg starts⟩

-- A starter that no mark is composed with stays itself, whatever has passed.
theorem composeFrom_of_inert {code : Nat} (inert : isInertCode code) (passed marks : List Mark) :
    composeFrom code passed marks = code :: (passed.reverse.map Mark.code) ++ compose marks := by
  induction marks generalizing passed with
  | nil => simp [composeFrom, compose]
  | cons mark marks ih =>
    rw [compose]
    rcases composeFrom_cases code passed mark with ⟨_, found, -⟩ | ⟨starts, same⟩ | ⟨follows, same⟩
    · rw [compose?_of_inert (.inl inert)] at found
      cases found
    · rw [same, if_pos starts]
    · rw [same, if_neg follows, ih]
      simp

theorem composeFrom_append (starts : starter.rank = 0) (inert : isInertCode starter.code)
    (code : Nat) (passed before after : List Mark) :
    composeFrom code passed (before ++ starter :: after) =
      composeFrom code passed before ++ starter.code :: compose after := by
  induction before generalizing code passed with
  | nil =>
    rcases composeFrom_cases code passed starter with ⟨_, found, -⟩ | ⟨-, same⟩ | ⟨follows, -⟩
    · rw [compose?_of_inert (.inr inert)] at found
      cases found
    · rw [List.nil_append, same, composeFrom_of_inert inert]
      rfl
    · exact absurd starts follows
  | cons mark before ih =>
    rw [List.cons_append]
    rcases composeFrom_cases code passed mark with ⟨_, -, same⟩ | ⟨-, same⟩ | ⟨-, same⟩
    · rw [same, same, ih]
    · rw [same, same, ih, List.append_assoc]
    · rw [same, same, ih]

theorem compose_append (starts : starter.rank = 0) (inert : isInertCode starter.code)
    (before after : List Mark) :
    compose (before ++ starter :: after) = compose before ++ starter.code :: compose after := by
  induction before with
  | nil =>
    rw [List.nil_append, compose.eq_2, if_pos starts, composeFrom_of_inert inert]
    rfl
  | cons mark before ih =>
    rw [List.cons_append, compose, compose]
    split
    · exact composeFrom_append starts inert _ _ _ _
    · rw [ih, List.cons_append]

theorem composeFrom_active {code : Nat} {passed marks : List Mark} (first : isInertCode code = false)
    (between : ∀ mark ∈ passed, isInertCode mark.code = false)
    (later : ∀ mark ∈ marks, isInertCode mark.code = false) :
    ∀ part ∈ composeFrom code passed marks, isInertCode part = false := by
  have passing {code : Nat} {passed : List Mark} (first : isInertCode code = false)
      (between : ∀ mark ∈ passed, isInertCode mark.code = false) :
      ∀ part ∈ code :: (passed.reverse.map Mark.code), isInertCode part = false := by
    simpa [first] using between
  induction marks generalizing code passed with
  | nil => exact passing first between
  | cons mark marks ih =>
    obtain ⟨here, later⟩ := List.forall_mem_cons.1 later
    rcases composeFrom_cases code passed mark with ⟨_, found, same⟩ | ⟨-, same⟩ | ⟨-, same⟩
    · rw [same]
      exact ih (active_of_compose? found).1 between later
    · rw [same]
      exact List.forall_mem_append.2 ⟨passing first between, ih here (List.forall_mem_nil _) later⟩
    · rw [same]
      exact ih first (List.forall_mem_cons.2 ⟨here, between⟩) later

theorem compose_active {marks : List Mark} (active : ∀ mark ∈ marks, isInertCode mark.code = false) :
    ∀ part ∈ compose marks, isInertCode part = false := by
  induction marks with
  | nil => exact List.forall_mem_nil _
  | cons mark marks ih =>
    obtain ⟨here, later⟩ := List.forall_mem_cons.1 active
    rw [compose]
    split
    · exact composeFrom_active here (List.forall_mem_nil _) later
    · exact List.forall_mem_cons.2 ⟨here, ih later⟩

theorem composeFrom_ne_nil (code : Nat) (passed marks : List Mark) :
    composeFrom code passed marks ≠ [] := by
  induction marks generalizing code passed with
  | nil => exact List.cons_ne_nil _ _
  | cons mark marks ih =>
    rcases composeFrom_cases code passed mark with ⟨_, -, same⟩ | ⟨-, same⟩ | ⟨-, same⟩
    · exact same marks ▸ ih _ _
    · exact same marks ▸ List.cons_ne_nil _ _
    · exact same marks ▸ ih _ _

theorem compose_ne_nil {marks : List Mark} (filled : marks ≠ []) : compose marks ≠ [] := by
  cases marks with
  | nil => exact absurd rfl filled
  | cons mark marks =>
    rw [compose]
    split
    · exact composeFrom_ne_nil _ _ _
    · exact List.cons_ne_nil _ _

end Marks

/-! ### Texts -/

section Texts

variable {c : Char}

/-- Two blanks stand for others; nothing else that is inert does. -/
theorem settled_cases (c : Char) : settled c = c ∨ (isBlank c ∧ isBlank (settled c)) := by
  by_cases first : c.toNat = 0x2000
  · exact .inr ⟨by rw [isBlank, first]; decide, by rw [settled, first]; decide⟩
  · by_cases second : c.toNat = 0x2001
    · exact .inr ⟨by rw [isBlank, second]; decide, by rw [settled, second]; decide⟩
    · left
      rw [settled, settledCode, if_neg first, if_neg second, Char.ofNat_toNat]

theorem isBlank_settled (blank : isBlank c) : isBlank (settled c) :=
  (settled_cases c).elim (fun same => same.symm ▸ blank) And.right

theorem settled_of_not_blank (other : isBlank c = false) : settled c = c :=
  (settled_cases c).resolve_right fun both => Bool.eq_false_iff.1 other both.1

theorem marks_append (before after : List Char) :
    marks (before ++ after) = marks before ++ marks after := by
  simp [marks]

theorem marks_of_inert (inert : isInert c) (rest : List Char) :
    marks (c :: rest) = .ofCode (settledCode c.toNat) :: marks rest := by
  have alone : decompose nesting c.toNat = [settledCode c.toNat] := decompose_of_inert inert 3
  simp [marks, alone]

theorem marks_of_low (low : c.toNat < 0xC0) (rest : List Char) :
    marks (c :: rest) = .ofCode c.toNat :: marks rest := by
  have alone : decompose nesting c.toNat = [c.toNat] := decompose_of_low low 3
  simp [marks, alone]

/-- An inert character parts a text into two that are recomposed one by one. -/
theorem recompose_append (inert : isInert c) (before after : List Char) :
    recompose (before ++ c :: after) = recompose before ++ settled c :: recompose after := by
  have inert' := isInertCode_settledCode inert
  have starts : (Mark.ofCode (settledCode c.toNat)).rank = 0 := combiningClass_of_inert inert'
  rw [recompose, marks_append, marks_of_inert inert, order_append starts, compose_append starts inert',
    List.map_append, List.map_cons]
  rfl

theorem recompose_cons_of_low {next : Char} (low : c.toNat < 0xC0) (low' : next.toNat < 0xC0)
    (rest : List Char) : recompose (c :: next :: rest) = c :: recompose (next :: rest) := by
  have starts : (Mark.ofCode c.toNat).rank = 0 := combiningClass_of_low (by omega)
  have starts' : (Mark.ofCode next.toNat).rank = 0 := combiningClass_of_low (by omega)
  have first : order (marks (c :: next :: rest)) = .ofCode c.toNat :: order (marks (next :: rest)) := by
    rw [marks_of_low low]
    exact order_append starts [] _
  have second : order (marks (next :: rest)) = .ofCode next.toNat :: order (marks rest) := by
    rw [marks_of_low low']
    exact order_append starts' [] _
  have alone : compose (order (marks (c :: next :: rest))) =
      c.toNat :: compose (order (marks (next :: rest))) := by
    rw [first, second, compose, if_pos starts, compose, if_pos starts']
    rcases composeFrom_cases c.toNat [] (.ofCode next.toNat) with ⟨_, found, -⟩ | ⟨-, same⟩ | ⟨apart, -⟩
    · have none : compose? c.toNat next.toNat = none := compose?_of_low (by omega)
      exact absurd (none.symm.trans found) (by simp)
    · exact same _
    · exact absurd starts' apart
  rw [recompose, alone, List.map_cons, Char.ofNat_toNat]
  rfl

/-- Nothing is composed with characters as low as these, so they stay as they are. -/
theorem recompose_append_of_low {before : List Char} {next : Char} (low : ∀ c ∈ before, c.toNat < 0xC0)
    (low' : next.toNat < 0xC0) (rest : List Char) :
    recompose (before ++ next :: rest) = before ++ recompose (next :: rest) := by
  induction before with
  | nil => rfl
  | cons c before ih =>
    obtain ⟨here, later⟩ := List.forall_mem_cons.1 low
    rw [List.cons_append, List.cons_append, ← ih later]
    cases before with
    | nil => exact recompose_cons_of_low here low' rest
    | cons second before => exact recompose_cons_of_low here (later second List.mem_cons_self) _

theorem isInert_ofNat {code : Nat} (active : isInertCode code = false) :
    isInert (Char.ofNat code) = false := by
  by_cases valid : code.isValidChar
  · rw [Char.ofNat, dif_pos valid]
    exact active
  · rw [Char.ofNat, dif_neg valid]
    decide

theorem marks_active {run : List Char} (active : ∀ c ∈ run, isInert c = false) :
    ∀ mark ∈ marks run, isInertCode mark.code = false := by
  intro mark inside
  obtain ⟨code, among, rfl⟩ := List.mem_map.1 inside
  obtain ⟨c, here, part⟩ := List.mem_flatMap.1 among
  exact (decompose_active (active c here) nesting).2 code part

theorem recompose_active {run : List Char} (active : ∀ c ∈ run, isInert c = false) :
    ∀ c ∈ recompose run, isInert c = false := by
  intro c inside
  obtain ⟨code, among, rfl⟩ := List.mem_map.1 inside
  exact isInert_ofNat (compose_active (fun mark found => marks_active active mark (mem_order.1 found))
    code among)

theorem recompose_ne_nil {run : List Char} (active : ∀ c ∈ run, isInert c = false)
    (filled : run ≠ []) : recompose run ≠ [] := by
  obtain ⟨c, rest, rfl⟩ := List.exists_cons_of_ne_nil filled
  obtain ⟨code, among⟩ :=
    List.exists_mem_of_ne_nil _ (decompose_active (active c List.mem_cons_self) nesting).1
  have inside : .ofCode code ∈ order (marks (c :: rest)) :=
    mem_order.2 (List.mem_map_of_mem (List.mem_flatMap.2 ⟨c, List.mem_cons_self, among⟩))
  simpa [recompose] using compose_ne_nil (List.ne_nil_of_mem inside)

theorem recompose_blank {before : List Char} (blank : ∀ c ∈ before, isBlank c) (rest : List Char) :
    ∃ before', (∀ c ∈ before', isBlank c) ∧ recompose (before ++ rest) = before' ++ recompose rest := by
  induction before with
  | nil => exact ⟨[], List.forall_mem_nil _, rfl⟩
  | cons c before ih =>
    obtain ⟨here, later⟩ := List.forall_mem_cons.1 blank
    obtain ⟨before', blank', same⟩ := ih later
    refine ⟨settled c :: before', List.forall_mem_cons.2 ⟨isBlank_settled here, blank'⟩, ?_⟩
    rw [List.cons_append, List.cons_append, ← same]
    exact recompose_append (isInert_of_isBlank here) [] (before ++ rest)

end Texts

/-! ### A text and its normal form -/

/-- Two texts in which inert characters stand at corresponding places, with others between them in both
texts or in neither. -/
inductive Resembles : List Char → List Char → Prop where
  | nil : Resembles [] []
  | inert {c : Char} {rest rest' : List Char} (inert : isInert c) (later : Resembles rest rest') :
      Resembles (c :: rest) (settled c :: rest')
  | active {run run' rest rest' : List Char} (filled : run ≠ []) (filled' : run' ≠ [])
      (active : ∀ c ∈ run, isInert c = false) (active' : ∀ c ∈ run', isInert c = false)
      (later : Resembles rest rest') : Resembles (run ++ rest) (run' ++ rest')

namespace Resembles

variable {run text text' : List Char}

theorem of_active (active : ∀ c ∈ run, isInert c = false) : Resembles run (recompose run) := by
  by_cases empty : run = []
  · subst empty
    exact .nil
  · have whole := Resembles.active empty (recompose_ne_nil active empty) active
      (recompose_active active) .nil
    rwa [List.append_nil, List.append_nil] at whole

theorem append {first first' : List Char} (before : Resembles first first')
    (after : Resembles text text') : Resembles (first ++ text) (first' ++ text') := by
  induction before with
  | nil => exact after
  | inert inert _ ih => exact .inert inert ih
  | active filled filled' active active' _ ih =>
    rw [List.append_assoc, List.append_assoc]
    exact .active filled filled' active active' ih

theorem ne_nil (alike : Resembles text text') (filled : text ≠ []) : text' ≠ [] := by
  cases alike with
  | nil => exact absurd rfl filled
  | inert => exact List.cons_ne_nil _ _
  | active _ filled' => exact List.append_ne_nil_of_left_ne_nil filled' _

/-- What is inert in the second text stands for something in the first one. -/
theorem exists_settled {c : Char} (alike : Resembles text text') (inside : c ∈ text')
    (inert : isInert c) : ∃ origin ∈ text, settled origin = c := by
  induction alike with
  | nil => cases inside
  | inert _ _ ih =>
    rcases List.mem_cons.1 inside with rfl | inside
    · exact ⟨_, List.mem_cons_self, rfl⟩
    · obtain ⟨origin, among, same⟩ := ih inside
      exact ⟨origin, List.mem_cons_of_mem _ among, same⟩
  | active _ _ _ active' _ ih =>
    rcases List.mem_append.1 inside with inside | inside
    · rw [active' c inside] at inert
      cases inert
    · obtain ⟨origin, among, same⟩ := ih inside
      exact ⟨origin, List.mem_append_right _ among, same⟩

theorem head? {c : Char} (alike : Resembles text text') (first : text'.head? = some c) :
    ∃ origin, text.head? = some origin ∧ (settled origin = c ∨ isInert c = false) := by
  cases alike with
  | nil => cases first
  | inert _ _ =>
    cases first
    exact ⟨_, rfl, .inl rfl⟩
  | active filled filled' _ active' _ =>
    obtain ⟨origin, run, rfl⟩ := List.exists_cons_of_ne_nil filled
    obtain ⟨_, run', rfl⟩ := List.exists_cons_of_ne_nil filled'
    cases first
    exact ⟨origin, rfl, .inr (active' c List.mem_cons_self)⟩

end Resembles

-- From the front on, with the active characters since the last inert one in `run`.
theorem resembles_recompose_append {run : List Char} (active : ∀ c ∈ run, isInert c = false)
    (text : List Char) : Resembles (run ++ text) (recompose (run ++ text)) := by
  induction text generalizing run with
  | nil =>
    rw [List.append_nil]
    exact .of_active active
  | cons c text ih =>
    cases here : isInert c with
    | true =>
      rw [recompose_append here]
      exact (Resembles.of_active active).append (.inert here (ih (List.forall_mem_nil _)))
    | false =>
      rw [List.append_cons]
      apply ih
      exact List.forall_mem_append.2 ⟨active, by simpa using here⟩

theorem resembles_recompose (text : List Char) : Resembles text (recompose text) :=
  resembles_recompose_append (List.forall_mem_nil _) text

theorem normalize_of_latin {text : String} (latin : ∀ c ∈ text.toList, c.toNat < 0x300) :
    normalize text = text := by
  have all : text.toList.all (·.toNat < 0x300) = true := by simpa using latin
  rw [normalize, normalForm, if_pos all, String.ofList_toList]

end StyleTokens.Text
