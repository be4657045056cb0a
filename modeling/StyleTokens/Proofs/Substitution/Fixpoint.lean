import StyleTokens.Proofs.Substitution.Calls
import StyleTokens.Proofs.Token.Shift

/-! Texts without a `$`. Each `$` of a document is in a token that the pass has yet to settle, so a
pass that replaces all tokens by texts without a `$` leaves none behind. A text without one has no
tokens, and a pass only brings it into normal form. -/

set_option autoImplicit false

namespace StyleTokens

variable {σ τ : Type}

/-! ### Tokens that are still to be settled -/

/-- The tokens of a document from right to left, which hold all its `$` signs. What follows the last
of them in the text may have changed since they were found. -/
structure Outstanding (document : List Char) (tokens : List Token) : Prop where
  covers : ∀ i, document[i]? = some '$' → ∃ token ∈ tokens, token.start ≤ i ∧ i < token.stop
  forward : ∀ token ∈ tokens, token.start ≤ token.stop
  descending : tokens.Pairwise fun first second => second.stop ≤ first.start
  blank : ∀ token ∈ tokens, ∀ c ∈ token.suffix, Text.isBlank c

theorem Outstanding.not_mem {document : List Char} (outstanding : Outstanding document []) :
    '$' ∉ document := by
  intro found
  obtain ⟨i, mark⟩ := List.mem_iff_getElem?.1 found
  obtain ⟨token, inside, -⟩ := outstanding.covers i mark
  cases inside

/-- A token that is replaced takes its `$` signs along. Those in front of it stay where they are, and
behind it there are none. -/
theorem Outstanding.splice {document text : List Char} {token : Token} {pending : List Token}
    (outstanding : Outstanding document (token :: pending)) (plain : '$' ∉ text) :
    Outstanding (splice document token text) pending := by
  obtain ⟨here, forward⟩ := List.forall_mem_cons.1 outstanding.forward
  obtain ⟨before, descending⟩ := List.pairwise_cons.1 outstanding.descending
  refine ⟨?_, forward, descending, (List.forall_mem_cons.1 outstanding.blank).2⟩
  intro i mark
  rw [StyleTokens.splice, List.append_assoc, List.getElem?_append, List.getElem?_append] at mark
  split at mark
  · rw [List.getElem?_take] at mark
    split at mark
    · obtain ⟨other, found, within⟩ := outstanding.covers i mark
      rcases List.mem_cons.1 found with rfl | found
      · omega
      · exact ⟨other, found, within⟩
    · cases mark
  · split at mark
    · exact absurd (List.mem_of_getElem? mark) plain
    · rw [List.getElem?_drop] at mark
      obtain ⟨other, found, within⟩ := outstanding.covers _ mark
      rcases List.mem_cons.1 found with rfl | found
      · omega
      · have := before other found
        omega

theorem suffix_of_readToken {offset : Nat} {text rest : List Char}
    {result : Except ScanFailure Token} (read : readToken offset text = (result, rest)) :
    ∀ c ∈ (scannedToken result).suffix, Text.isBlank c := by
  rcases readToken_cases offset text with ⟨form, rest', fits, -, same⟩ | ⟨error, -, same⟩
  · rw [same] at read
    cases read
    exact fits.suffix
  · rw [same] at read
    cases read
    rintro c ⟨⟩

theorem outstanding_scan (text : String) :
    Outstanding text.toList ((scan text).reverse.map scannedToken) := by
  have reads := Scanner.reads_ofString text
  have tiles : Tiles text.toList 0 ((scan text).map scannedToken) := reads.tiles
  rw [List.map_reverse]
  refine ⟨?_, ?_, List.pairwise_reverse.2 tiles.ordered, ?_⟩
  · intro i mark
    simpa using tiles.covers (Nat.zero_le i) mark
  · intro token found
    exact Nat.le_of_lt (tiles.spans token (List.mem_reverse.1 found)).forward
  · intro token found
    obtain ⟨result, inside, rfl⟩ := List.mem_map.1 (List.mem_reverse.1 found)
    exact suffix_of_readToken (reads.readToken_of_mem inside)

/-! ### Texts that are rendered -/

/-- The texts on record in the place of tokens, without the suffixes of the tokens. -/
def renderings (actions : List (Action σ)) : List (List Char) :=
  actions.filterMap fun action =>
    match action with
    | .splice token text => some (text.take (text.length - token.suffix.toList.length))
    | _ => none

theorem attempt_written {layers : List (Value σ)} {host host' : σ}
    {scanned : Except ScanFailure Token} {token : Token} {text : List Char}
    (tried : attempt layers host scanned = (token, .ok text, host')) :
    text = [] ∨ ∃ rendered, text = rendered ++ token.suffix.toList := by
  cases scanned with
  | error failure => cases tried
  | ok token =>
    simp only [attempt, replacement] at tried
    split at tried
    · cases tried
    · split at tried <;> cases tried
      · exact .inl rfl
      · exact .inr ⟨_, rfl⟩

theorem not_mem_of_rendering {text : List Char} {suffix : Option Char}
    (written : text = [] ∨ ∃ rendered, text = rendered ++ suffix.toList)
    (blank : ∀ c ∈ suffix, Text.isBlank c)
    (plain : '$' ∉ text.take (text.length - suffix.toList.length)) : '$' ∉ text := by
  rcases written with rfl | ⟨rendered, rfl⟩
  · exact List.not_mem_nil
  · have front : '$' ∉ rendered := by simpa using plain
    rw [List.mem_append, Option.mem_toList]
    rintro (found | found)
    · exact front found
    · exact absurd (blank '$' found) (by decide)

/-! ### Passes that replace every token -/

theorem not_mem_of_settle (layers : List (Value σ)) (config : Config τ)
    {pending : List (Except ScanFailure Token)} {document : List Char}
    (outstanding : Outstanding document (pending.map scannedToken)) (host : σ) (state : τ)
    (plain : ∀ rendered ∈ renderings (record layers config pending host state), '$' ∉ rendered)
    {done : Substitution} (went : (settle layers config pending document host state).1 = .ok done)
    (none : done.failures = []) : '$' ∉ done.text.toList := by
  induction pending generalizing document host with
  | nil =>
    cases went
    rw [String.toList_ofList]
    exact outstanding.not_mem
  | cons scanned pending ih =>
    have same := attempt_token layers host scanned
    rcases tried : attempt layers host scanned with ⟨token, error | text, host'⟩
    · -- a token that fails is reported, and a pass that goes through has no report
      have reported :=
        ((settle_accounts layers config (scanned :: pending) document host state).done done went).2
      by_cases ends : config.Ends ⟨token, error⟩ state
      · simp [none, record_of_ends tried ends] at reported
      · simp [none, record_of_not_ends tried ends] at reported
    · rw [tried] at same
      obtain rfl : token = scannedToken scanned := same
      rw [record_of_ok tried] at plain
      rw [settle_of_ok tried] at went
      have unmarked : '$' ∉ text := by
        apply not_mem_of_rendering (attempt_written tried) (outstanding.blank _ List.mem_cons_self)
        exact plain _ (List.mem_filterMap.2 ⟨.splice (scannedToken scanned) text, by simp, rfl⟩)
      refine ih (outstanding.splice unmarked) host' (fun rendered found => plain rendered ?_) went
      obtain ⟨action, later, same⟩ := List.mem_filterMap.1 found
      exact List.mem_filterMap.2 ⟨action, List.mem_append_right _ later, same⟩

/-! ### Passes without a token -/

/-- Whatever its layers and options, a pass over the text gives `result`. No token is left in place,
and nothing is asked, called or reported. -/
def PassesThrough (normalize : String → String) (text result : String) : Prop :=
  ∀ (σ τ : Type) (layers : List (Value σ)) (config : Config τ) (host : σ) (state : τ),
    substituteBy normalize layers text config host state = (.ok ⟨result, []⟩, host, state) ∧
      recordBy normalize layers text config host state = [] ∧
      ∀ log, substituteBy normalize (layers.map Value.observed) text config (host, log) state =
        (.ok ⟨result, []⟩, (host, log), state)

theorem scan_of_plain {text : String} (plain : '$' ∉ text.toList) : scan text = [] :=
  Scanner.all_of_none (Scanner.next_of_plain (plain_of_not_mem plain))

theorem passesThrough_of_plain {normalize : String → String} {text : String}
    (plain : '$' ∉ (normalize text).toList) : PassesThrough normalize text (normalize text) := by
  intro σ τ layers config host state
  simp [substituteBy, recordBy, scan_of_plain plain, record]

/-- Completed passes are final. A pass that goes through, leaves no token in place and renders no text
with a `$` gives a text without one. A text without a `$` is only brought into normal form, by any
pass, and then stays as it is. -/
theorem substituteBy_fixpoint (normalize : String → String)
    (idempotent : ∀ text, normalize (normalize text) = normalize text)
    (plain : ∀ text, '$' ∉ text.toList → '$' ∉ (normalize text).toList) :
    (∀ (σ τ : Type) (layers : List (Value σ)) (text : String) (config : Config τ) (host : σ)
      (state : τ) (done : Substitution),
      (substituteBy normalize layers text config host state).1 = .ok done → done.failures = [] →
        (∀ rendered ∈ renderings (recordBy normalize layers text config host state),
          '$' ∉ rendered) →
        '$' ∉ done.text.toList ∧ PassesThrough normalize done.text (normalize done.text)) ∧
    ∀ text, '$' ∉ text.toList →
      PassesThrough normalize text (normalize text) ∧
        PassesThrough normalize (normalize text) (normalize text) := by
  constructor
  · intro σ τ layers text config host state done went none unmarked
    have left : '$' ∉ done.text.toList :=
      not_mem_of_settle layers config (outstanding_scan (normalize text)) host state unmarked went none
    exact ⟨left, passesThrough_of_plain (plain done.text left)⟩
  · intro text unmarked
    have again := passesThrough_of_plain (plain (normalize text) (plain text unmarked))
    rw [idempotent] at again
    exact ⟨passesThrough_of_plain (plain text unmarked), again⟩

/-- Brings one text into normal form, in which an accent follows its letter. -/
def composeSample (text : String) : String :=
  if text = "e\u0301$n $a" then "\u00E9$n $a" else text

theorem substituteBy_fixpoint_sample :
    let text := "e\u0301$n $a"
    let layers : List (Value Unit) :=
      [.object [("n", .null)], .object [("n", .string "hidden"), ("a", .array [.integer 1, .null])]]
    let outcome := substituteBy composeSample layers text .standard () []
    let plain := "caf\u00E9 : #x;"
    (∀ text, composeSample (composeSample text) = composeSample text) ∧
      (∀ text, '$' ∉ text.toList → '$' ∉ (composeSample text).toList) ∧
      composeSample text = Text.normalize text ∧
      outcome.1 = .ok ⟨"\u00E91,", []⟩ ∧
      (∀ rendered ∈ renderings (recordBy composeSample layers text .standard () []),
        '$' ∉ rendered) ∧
      PassesThrough composeSample "\u00E91," "\u00E91," ∧
      '$' ∉ plain.toList ∧ PassesThrough composeSample plain plain := by
  intro text layers outcome plain
  have idempotent : ∀ text, composeSample (composeSample text) = composeSample text := by
    intro text
    unfold composeSample
    split <;> simp_all
  have unmarked : ∀ text, '$' ∉ text.toList → '$' ∉ (composeSample text).toList := by
    intro text without
    unfold composeSample
    split
    · next same => exact absurd (by rw [same]; decide) without
    · exact without
  have went : outcome.1 = .ok ⟨"\u00E91,", []⟩ := by decide +kernel
  have rendered : ∀ rendered ∈ renderings (recordBy composeSample layers text .standard () []),
      '$' ∉ rendered := by decide +kernel
  obtain ⟨completed, through⟩ := substituteBy_fixpoint composeSample idempotent unmarked
  have final := (completed Unit _ layers text .standard () [] _ went rfl rendered).2
  refine ⟨idempotent, unmarked, by decide +kernel, went, rendered, final, by decide, ?_⟩
  exact (through plain (by decide)).1

end StyleTokens
