import StyleTokens.Proofs.Substitution.Record

/-! What a pass makes of a text, told from left to right: the stretches between the tokens as they
stand, and in the place of each token what becomes of it. The pass itself works from the right, in a
document that changes under it; what it has yet to settle is the untouched part on the left. -/

set_option autoImplicit false

namespace StyleTokens

variable {σ τ : Type}

/-! ### The reference -/

/-- What becomes of a token. -/
inductive Fate where
  | kept
  | dropped
  | replaced (text : String)
  deriving DecidableEq, Repr

def fateOf (layers : List (Value σ)) (host : σ) : Except ScanFailure Token → Fate × σ
  | .error _ => (.kept, host)
  | .ok token =>
    match lookup layers token.path with
    | none => (.kept, host)
    | some value =>
      match value.render token.args host with
      | (.error _, host) => (.kept, host)
      | (.ok none, host) => (.dropped, host)
      | (.ok (some text), host) => (.replaced text, host)

/-- The tokens with their fates, which are decided from the last token to the first. -/
def fates (layers : List (Value σ)) : List (Except ScanFailure Token) → σ → List (Token × Fate) × σ
  | [], host => ([], host)
  | scanned :: later, host =>
    let (decided, host) := fates layers later host
    let (fate, host) := fateOf layers host scanned
    ((scannedToken scanned, fate) :: decided, host)

def Fate.written (text : List Char) (token : Token) : Fate → List Char
  | .kept => stretch text token.start token.stop
  | .dropped => []
  | .replaced replacement => replacement.toList ++ token.suffix.toList

/-- The text from a place on, with each token in it as its fate has it. -/
def woven (text : List Char) : Nat → List (Token × Fate) → List Char
  | place, [] => text.drop place
  | place, (token, fate) :: later =>
    stretch text place token.start ++ fate.written text token ++ woven text token.stop later

/-! ### Steps of a pass that goes on -/

theorem attempt_cases (layers : List (Value σ)) (host : σ) (scanned : Except ScanFailure Token) :
    (∃ error, attempt layers host scanned =
        (scannedToken scanned, .error error, (fateOf layers host scanned).2) ∧
      (fateOf layers host scanned).1 = .kept) ∨
    ∃ replacement, attempt layers host scanned =
        (scannedToken scanned, .ok replacement, (fateOf layers host scanned).2) ∧
      ∀ text, (fateOf layers host scanned).1.written text (scannedToken scanned) = replacement := by
  cases scanned with
  | error failure => exact .inl ⟨_, rfl, rfl⟩
  | ok token =>
    simp only [attempt, replacement, fateOf, scannedToken]
    cases lookup layers token.path with
    | none => exact .inl ⟨_, rfl, rfl⟩
    | some value =>
      dsimp only
      rcases value.render token.args host with ⟨_ | _ | text, after⟩
      · exact .inl ⟨_, rfl, rfl⟩
      · exact .inr ⟨_, rfl, fun _ => rfl⟩
      · exact .inr ⟨_, rfl, fun _ => rfl⟩

section

variable {layers : List (Value σ)} {config : Config τ}

theorem settle_append (first second : List (Except ScanFailure Token)) (document : List Char)
    (host : σ) (state : τ) :
    settle layers config (first ++ second) document host state =
      match settle layers config first document host state with
      | (.error failure, rest) => (.error failure, rest)
      | (.ok done, host, state) =>
        leaving done.failures (settle layers config second done.text.toList host state) := by
  induction first generalizing document host state with
  | nil => simp
  | cons scanned first ih =>
    rw [List.cons_append]
    rcases tried : attempt layers host scanned with ⟨token, error | text, host'⟩
    · by_cases ends : config.Ends ⟨token, error⟩ state
      · rw [settle_of_ends tried ends, settle_of_ends tried ends]
      · rw [settle_of_not_ends tried ends, settle_of_not_ends tried ends, ih]
        rcases settle layers config first document host' (config.tell state ⟨token, error⟩) with
          ⟨failure | done, host, state⟩
        · rfl
        · rw [leaving_leaving, leaving_ok]
    · rw [settle_of_ok tried, settle_of_ok tried, ih]

variable {text : List Char} {place : Nat}

theorem take_append_stretch {start stop : Nat} (forward : start ≤ stop) :
    text.take start ++ stretch text start stop = text.take stop := by
  rw [stretch, ← List.take_add]
  congr 1
  omega

-- Only the text up to the token is as it was; `rest` is what the pass made of everything after it.
theorem settle_step (layers : List (Value σ)) (goesOn : config.GoesOn)
    (scanned : Except ScanFailure Token) (rest : List Char)
    (forward : (scannedToken scanned).start ≤ (scannedToken scanned).stop)
    (within : (scannedToken scanned).stop ≤ text.length) (host : σ) (state : τ) :
    ∃ failures state',
      settle layers config [scanned] (text.take (scannedToken scanned).stop ++ rest) host state =
        (.ok ⟨String.ofList (text.take (scannedToken scanned).start ++
          (fateOf layers host scanned).1.written text (scannedToken scanned) ++ rest), failures⟩,
          (fateOf layers host scanned).2, state') := by
  have length : (text.take (scannedToken scanned).stop).length = (scannedToken scanned).stop := by
    rw [List.length_take]
    omega
  rcases attempt_cases layers host scanned with ⟨error, tried, kept⟩ | ⟨replacement, tried, written⟩
  · rw [settle_of_not_ends tried (goesOn.not_ends _ _), kept, Fate.written,
      take_append_stretch forward]
    exact ⟨_, _, rfl⟩
  · have before : (text.take (scannedToken scanned).stop ++ rest).take (scannedToken scanned).start =
        text.take (scannedToken scanned).start := by
      rw [List.take_append_of_le_length (by omega), List.take_take, Nat.min_eq_left forward]
    have after : (text.take (scannedToken scanned).stop ++ rest).drop (scannedToken scanned).stop =
        rest := by
      rw [List.drop_append_of_le_length (by omega), List.drop_of_length_le (by omega),
        List.nil_append]
    rw [settle_of_ok tried, splice, before, after, written]
    exact ⟨_, _, rfl⟩

/-- The tokens from a place on, settled from the last to the first, leave the text before the place
alone and make of the rest what the reference says. -/
theorem settle_woven (layers : List (Value σ)) (goesOn : config.GoesOn)
    {scanned : List (Except ScanFailure Token)}
    (tiles : Tiles text place (scanned.map scannedToken)) (host : σ) (state : τ) :
    ∃ failures state',
      settle layers config scanned.reverse text host state =
        (.ok ⟨String.ofList (text.take place ++ woven text place (fates layers scanned host).1),
          failures⟩, (fates layers scanned host).2, state') := by
  -- the first token is settled last, when the induction has dealt with those after it
  induction scanned generalizing place with
  | nil =>
    refine ⟨[], state, ?_⟩
    simp [fates, woven]
  | cons first later ih =>
    rcases tiles with _ | ⟨next, spans, tiles⟩
    obtain ⟨failures, state₁, settled⟩ := ih tiles
    obtain ⟨failures', state₂, last⟩ := settle_step layers goesOn first
      (woven text (scannedToken first).stop (fates layers later host).1) (Nat.le_of_lt spans.forward)
      spans.within (fates layers later host).2 state₁
    refine ⟨failures ++ failures', state₂, ?_⟩
    rw [List.reverse_cons, settle_append, settled]
    simp only [String.toList_ofList, last, leaving_ok]
    rw [← take_append_stretch next.ahead]
    simp [fates, woven]

end

/-! ### Ranges and lookups -/

/-- The document with the span of a token replaced, if the span lies within the document. -/
def splice? (document : List Char) (token : Token) (text : List Char) : Option (List Char) :=
  if token.start ≤ token.stop ∧ token.stop ≤ document.length then some (splice document token text)
  else none

/-- Every replacement is made within the document as it is by then. -/
def InRange : List Char → List (Action σ) → Prop
  | _, [] => True
  | document, .splice token text :: later =>
    token.start ≤ token.stop ∧ token.stop ≤ document.length ∧
      InRange (splice document token text) later
  | document, _ :: later => InRange document later

def lookups (actions : List (Action σ)) : List (List String) :=
  actions.filterMap fun action =>
    match action with
    | .lookUp path => some path
    | _ => none

def pathOf? : Except ScanFailure Token → Option (List String)
  | .ok token => some token.path
  | .error _ => none

theorem inRange_inquiries (layers : List (Value σ)) (scanned : Except ScanFailure Token)
    (document : List Char) (later : List (Action σ)) :
    InRange document (inquiries layers scanned ++ later) ↔ InRange document later := by
  cases scanned with
  | error => rfl
  | ok token =>
    simp only [inquiries]
    split <;> rfl

theorem lookups_append (first second : List (Action σ)) :
    lookups (first ++ second) = lookups first ++ lookups second := List.filterMap_append

theorem lookups_report (failure : TokenFailure) (actions : List (Action σ)) :
    lookups (.report failure :: actions) = lookups actions := rfl

theorem lookups_splice (token : Token) (text : List Char) (actions : List (Action σ)) :
    lookups (.splice token text :: actions) = lookups actions := rfl

theorem lookups_inquiries (layers : List (Value σ)) (scanned : Except ScanFailure Token) :
    lookups (inquiries layers scanned) = (pathOf? scanned).toList := by
  cases scanned with
  | error => rfl
  | ok token =>
    simp only [inquiries]
    split <;> rfl

/-- A pass that would break down at a replacement outside the document comes out as one that would not,
if all replacements are within it. -/
theorem settleM_splice? (layers : List (Value σ)) (config : Config τ)
    {pending : List (Except ScanFailure Token)} {document : List Char} {host : σ} {state : τ}
    (within : InRange document (record layers config pending host state)) :
    settleM splice? layers config pending document host state =
      some (settle layers config pending document host state) := by
  induction pending generalizing document host state with
  | nil => rfl
  | cons scanned pending ih =>
    rcases tried : attempt layers host scanned with ⟨token, error | text, host'⟩
    · by_cases ends : config.Ends ⟨token, error⟩ state
      · rw [settleM_of_ends tried ends, settle_of_ends tried ends]
        rfl
      · rw [record_of_not_ends tried ends, List.append_assoc, inRange_inquiries] at within
        rw [settleM_of_not_ends tried ends, settle_of_not_ends tried ends, ih within]
        rfl
    · rw [record_of_ok tried, List.append_assoc, inRange_inquiries] at within
      obtain ⟨forward, inside, within⟩ := within
      have changed : splice? document token text = some (splice document token text) :=
        if_pos ⟨forward, inside⟩
      rw [settleM_of_ok tried, settle_of_ok tried, changed, ← ih within]
      rfl

/-- Tokens that follow each other from right to left stay within the document while the ones to
their right are replaced. -/
theorem inRange_record (layers : List (Value σ)) (config : Config τ)
    {pending : List (Except ScanFailure Token)} {document : List Char}
    (within : ∀ scanned ∈ pending, (scannedToken scanned).start ≤ (scannedToken scanned).stop ∧
      (scannedToken scanned).stop ≤ document.length)
    (descending : pending.Pairwise fun first second =>
      (scannedToken second).stop ≤ (scannedToken first).start) (host : σ) (state : τ) :
    InRange document (record layers config pending host state) := by
  induction pending generalizing document host state with
  | nil => trivial
  | cons scanned pending ih =>
    obtain ⟨here, within⟩ := List.forall_mem_cons.1 within
    obtain ⟨before, descending⟩ := List.pairwise_cons.1 descending
    have same := attempt_token layers host scanned
    rcases tried : attempt layers host scanned with ⟨token, error | text, host'⟩
    · by_cases ends : config.Ends ⟨token, error⟩ state
      · rw [record_of_ends tried ends, inRange_inquiries]
        trivial
      · rw [record_of_not_ends tried ends, List.append_assoc, inRange_inquiries]
        exact ih within descending host' _
    · rw [tried] at same
      subst same
      rw [record_of_ok tried, List.append_assoc, inRange_inquiries]
      refine ⟨here.1, here.2, ih ?_ descending host' state⟩
      -- a replacement may be shorter than its token, but the text before it keeps its length
      intro other found
      refine ⟨(within other found).1, ?_⟩
      have := before other found
      rw [splice, List.append_assoc, List.length_append, List.length_take]
      omega

/-- The replacements of a pass stay within the text of which the tokens are. -/
theorem inRange_scan (layers : List (Value σ)) (config : Config τ) (text : String) (host : σ)
    (state : τ) : InRange text.toList (record layers config (scan text).reverse host state) := by
  have tiles : Tiles text.toList 0 ((scan text).map scannedToken) :=
    (Scanner.reads_ofString text).tiles
  apply inRange_record
  · intro other found
    have spans := tiles.spans _ (List.mem_map_of_mem (List.mem_reverse.1 found))
    exact ⟨Nat.le_of_lt spans.forward, spans.within⟩
  · exact List.pairwise_reverse.2 (List.pairwise_map.1 tiles.ordered)

theorem lookups_record (layers : List (Value σ)) {config : Config τ} (goesOn : config.GoesOn)
    (pending : List (Except ScanFailure Token)) (host : σ) (state : τ) :
    lookups (record layers config pending host state) = pending.filterMap pathOf? := by
  induction pending generalizing host state with
  | nil => rfl
  | cons scanned pending ih =>
    rcases tried : attempt layers host scanned with ⟨token, error | text, host'⟩
    · rw [record_of_not_ends tried (goesOn.not_ends _ _), List.append_assoc, lookups_append,
        lookups_inquiries, List.singleton_append, lookups_report, ih]
      cases scanned <;> rfl
    · rw [record_of_ok tried, List.append_assoc, lookups_append, lookups_inquiries,
        List.singleton_append, lookups_splice, ih]
      cases scanned <;> rfl

/-- A pass that goes on gives the text that the reference does, and leaves all callables in the state
to which the reference brings them. It makes no replacement outside the document, so it comes out the
same if such a replacement breaks it down, and looks up every token once, from the last to the first. -/
theorem substituteBy_eq_woven (normalize : String → String) (layers : List (Value σ))
    (text : String) (config : Config τ) (goesOn : config.GoesOn) (host : σ) (state : τ) :
    let scanned := scan (normalize text)
    let document := (normalize text).toList
    let decided := fates layers scanned host
    let outcome := substituteBy normalize layers text config host state
    let actions := recordBy normalize layers text config host state
    (∃ failures state', outcome =
        (.ok ⟨String.ofList (woven document 0 decided.1), failures⟩, decided.2, state')) ∧
      Accounts config actions document host state outcome ∧
      InRange document actions ∧
      settleM splice? layers config scanned.reverse document host state = some outcome ∧
      lookups actions = scanned.reverse.filterMap pathOf? := by
  intro scanned document decided outcome actions
  have tiles : Tiles document 0 (scanned.map scannedToken) :=
    (Scanner.reads_ofString (normalize text)).tiles
  have within : InRange document actions := inRange_scan layers config (normalize text) host state
  refine ⟨?_, ?_, within, settleM_splice? layers config within, ?_⟩
  · obtain ⟨failures, state', run⟩ := settle_woven layers goesOn tiles host state
    exact ⟨failures, state', run⟩
  · apply settle_accounts
  · apply lookups_record layers goesOn

/-- A callable that tells its first call from the others. -/
def numbered : List String → Nat → Except CallError (Value Nat) × Nat :=
  fun _ calls => (.ok (.string (if calls = 0 then "first" else "later")), calls + 1)

theorem substituteBy_numbered :
    let layers := [.object [("s", .string "$n-$f"), ("n", .null)], .object [("f", .function numbered)]]
    let config : Config (List Event) := ⟨false, "example", logFailure⟩
    config.GoesOn ∧ ∃ failures events,
      substituteBy id layers "[$s] $n,$m;$f $f" config 0 [] =
        (.ok ⟨"[$n-$f] ,$m;later first", failures⟩, 2, events) := by
  intro layers config
  have goesOn : config.GoesOn := ⟨rfl, fun _ _ => rfl⟩
  obtain ⟨⟨failures, events, run⟩, -⟩ :=
    substituteBy_eq_woven id layers "[$s] $n,$m;$f $f" config goesOn 0 []
  refine ⟨goesOn, failures, events, run.trans ?_⟩
  have decided : (fates layers (scan "[$s] $n,$m;$f $f") 0).2 = 2 := by decide +kernel
  have written : String.ofList (woven "[$s] $n,$m;$f $f".toList 0
      (fates layers (scan "[$s] $n,$m;$f $f") 0).1) = "[$n-$f] ,$m;later first" := by
    decide +kernel
  rw [id, decided, written]

end StyleTokens
