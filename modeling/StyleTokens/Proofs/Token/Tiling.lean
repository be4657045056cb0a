import StyleTokens.Proofs.Token.Step

/-! The tokens of a text, well formed or not, follow each other without overlap and cover every `$`
of the text. Each step of a scan adds one token and leaves no `$` behind it; a scan that has ended
stays ended. -/

set_option autoImplicit false

namespace StyleTokens

variable {text : List Char} {place : Nat} {tokens : List Token} {token : Token}

/-! ### A scan and its steps -/

namespace Scanner

variable {scanner next : Scanner} {result : Except ScanFailure Token}

theorem all_of_none (ended : scanner.next = (none, next)) : scanner.all = [] := by
  rw [all.eq_def]
  split
  · rfl
  · next found => rw [ended] at found; cases found

theorem all_of_some (found : scanner.next = (some result, next)) :
    scanner.all = result :: next.all := by
  rw [all.eq_def]
  split
  · next ended => rw [found] at ended; cases ended
  · next same => rw [found] at same; cases same; rfl

theorem all_of_empty (empty : scanner.rest = []) : scanner.all = [] := by
  cases scanner
  cases empty
  exact all_of_none rfl

theorem rest_of_none (ended : scanner.next.1 = none) : scanner.next.2.rest = [] := by
  unfold Scanner.next at ended ⊢
  dsimp only at ended ⊢
  split at ended
  · rfl
  · cases ended

/-- The calls of `next` give the tokens one after the other, and nothing ever after. -/
theorem next_after (scanner : Scanner) (calls : Nat) :
    (scanner.after calls).next.1 = scanner.all[calls]? := by
  induction calls generalizing scanner with
  | zero =>
    cases step : scanner.next with
    | mk result next =>
      cases result with
      | none =>
        rw [all_of_none step]
        exact congrArg Prod.fst step
      | some result =>
        rw [all_of_some step]
        exact congrArg Prod.fst step
  | succ calls ih =>
    rw [after, ih]
    cases step : scanner.next with
    | mk result next =>
      cases result with
      | none =>
        have empty := rest_of_none (congrArg Prod.fst step)
        rw [step] at empty
        rw [all_of_none step, all_of_empty empty]
        rfl
      | some result => rw [all_of_some step, List.getElem?_cons_succ]

end Scanner

/-! ### Tilings -/

/-- Tokens in their places from `place` on, one after the other and with no `$` outside them. -/
inductive Tiles (text : List Char) : Nat → List Token → Prop where
  | done {place : Nat} : (∀ i, place ≤ i → text[i]? ≠ some '$') → Tiles text place []
  | token {place : Nat} {token : Token} {later : List Token} :
      NextMark text place token.start → token.Spans text → Tiles text token.stop later →
      Tiles text place (token :: later)

theorem Scanner.Reads.tiles {scanner : Scanner} (reads : scanner.Reads text) :
    Tiles text scanner.offset (scanner.all.map scannedToken) := by
  fun_induction Scanner.all scanner with
  | case1 scanner next ended =>
    rcases reads.next_cases with ⟨none, -⟩ | ⟨result, -, -, step⟩
    · exact .done none
    · rw [step] at ended
      cases ended
  | case2 scanner result next found ih =>
    rcases reads.next_cases with ⟨-, step⟩ | ⟨result', starts, spans, step⟩
    · rw [step] at found
      cases found
    · have later := reads.next
      rw [found] at later step
      cases step
      exact .token starts spans (ih later)

namespace Tiles

theorem spans (tiles : Tiles text place tokens) : ∀ token ∈ tokens, token.Spans text := by
  induction tiles with
  | done => simp
  | token _ spans _ ih => exact List.forall_mem_cons.2 ⟨spans, ih⟩

theorem le_start (tiles : Tiles text place tokens) : ∀ token ∈ tokens, place ≤ token.start := by
  induction tiles with
  | done => simp
  | token next spans _ ih =>
    refine List.forall_mem_cons.2 ⟨next.ahead, fun later found => ?_⟩
    have := ih later found
    have := spans.forward
    have := next.ahead
    omega

theorem ordered (tiles : Tiles text place tokens) :
    tokens.Pairwise fun first second => first.stop ≤ second.start := by
  induction tiles with
  | done => exact .nil
  | token _ _ later ih => exact .cons later.le_start ih

theorem ascending (tiles : Tiles text place tokens) :
    tokens.Pairwise fun first second => first.start < second.start := by
  refine tiles.ordered.imp_of_mem ?_
  intro first second found _ ordered
  exact Nat.lt_of_lt_of_le (tiles.spans first found).forward ordered

theorem covers (tiles : Tiles text place tokens) {i : Nat} (ahead : place ≤ i)
    (mark : text[i]? = some '$') : ∃ token ∈ tokens, token.start ≤ i ∧ i < token.stop := by
  induction tiles with
  | done none => exact absurd mark (none i ahead)
  | @token place token later next _ _ ih =>
    -- in the gap before the token, in the token, or after it
    by_cases before : i < token.start
    · exact absurd mark (next.first i before ahead)
    · by_cases inside : i < token.stop
      · exact ⟨token, List.mem_cons_self .., by omega, inside⟩
      · obtain ⟨other, found, covered⟩ := ih (by omega)
        exact ⟨other, List.mem_cons_of_mem _ found, covered⟩

-- Each token pays with the `$` that it starts with.
theorem length_le_count (tiles : Tiles text place tokens) :
    tokens.length ≤ (text.drop place).count '$' := by
  induction tiles with
  | done => exact Nat.zero_le _
  | @token place token later next spans _ ih =>
    obtain ⟨inside, mark⟩ := List.getElem?_eq_some_iff.1 next.mark
    have opened := List.drop_eq_getElem_cons inside
    rw [mark] at opened
    have here : (text.drop token.start).count '$' = (text.drop (token.start + 1)).count '$' + 1 := by
      rw [opened, List.count_cons_self]
    have before := (List.drop_sublist_drop_left text next.ahead).count_le '$'
    have passed : token.start + 1 ≤ token.stop := spans.forward
    have after := (List.drop_sublist_drop_left text passed).count_le '$'
    rw [List.length_cons]
    omega

end Tiles

/-- No place is in two of several tokens that follow each other. -/
theorem index_unique (ordered : tokens.Pairwise fun first second => first.stop ≤ second.start)
    {i j k : Nat} {first second : Token} (here : tokens[j]? = some first)
    (there : tokens[k]? = some second) (inFirst : first.start ≤ i ∧ i < first.stop)
    (inSecond : second.start ≤ i ∧ i < second.stop) : j = k := by
  obtain ⟨boundJ, rfl⟩ := List.getElem?_eq_some_iff.1 here
  obtain ⟨boundK, rfl⟩ := List.getElem?_eq_some_iff.1 there
  rcases Nat.lt_trichotomy j k with before | same | after
  · have := List.pairwise_iff_getElem.1 ordered j k boundJ boundK before
    omega
  · exact same
  · have := List.pairwise_iff_getElem.1 ordered k j boundK boundJ after
    omega

/-- The tokens of a text stand in their places, in order and without overlap; each `$` is in exactly
one of them. Calling for tokens gives just these, and none after the last. -/
theorem scan_tiles (text : String) :
    let characters := text.toList
    let tokens := (scan text).map scannedToken
    let after := (Scanner.ofString text).after
    (∀ token ∈ tokens, token.Spans characters) ∧
      tokens.Pairwise (fun first second => first.stop ≤ second.start) ∧
      (∀ i, characters[i]? = some '$' →
        ∃! k : Nat, ∃ token, tokens[k]? = some token ∧ token.start ≤ i ∧ i < token.stop) ∧
      (∀ i, (∀ token ∈ tokens, ¬(token.start ≤ i ∧ i < token.stop)) → characters[i]? ≠ some '$') ∧
      tokens.length ≤ characters.count '$' ∧
      (∀ calls, (after calls).next.1 = (scan text)[calls]?) ∧
      (after (characters.count '$')).next.1 = none ∧
      ∀ calls later, calls ≤ later → (after calls).next.1 = none → (after later).next.1 = none := by
  intro characters tokens after
  have tiles : Tiles characters 0 tokens := (Scanner.reads_ofString text).tiles
  have count : tokens.length ≤ characters.count '$' := tiles.length_le_count
  have length : tokens.length = (scan text).length := List.length_map _
  have calls : ∀ calls, (after calls).next.1 = (scan text)[calls]? :=
    (Scanner.ofString text).next_after
  refine ⟨tiles.spans, tiles.ordered, ?_, ?_, count, calls, ?_, ?_⟩
  · intro i mark
    obtain ⟨token, found, covered⟩ := tiles.covers (Nat.zero_le i) mark
    obtain ⟨k, here⟩ := List.mem_iff_getElem?.1 found
    refine ⟨k, ⟨token, here, covered⟩, ?_⟩
    rintro j ⟨other, there, covered'⟩
    exact index_unique tiles.ordered there here covered' covered
  · intro i outside mark
    obtain ⟨token, found, covered⟩ := tiles.covers (Nat.zero_le i) mark
    exact outside token found covered
  · rw [calls, List.getElem?_eq_none_iff]
    omega
  · intro first later ahead ended
    rw [calls, List.getElem?_eq_none_iff] at ended ⊢
    omega

end StyleTokens
