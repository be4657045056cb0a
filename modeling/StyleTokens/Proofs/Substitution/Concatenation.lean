import StyleTokens.Proofs.Substitution.Abort
import StyleTokens.Proofs.Substitution.Reference
import StyleTokens.Proofs.Token.Boundary

/-! A pass over two texts that are put together. What it does to the second text is what a pass over
that text alone does, further on in the document; what it does to the first leaves everything after
the first alone. So the record of the pass is made of the records of both. -/

set_option autoImplicit false

namespace StyleTokens

variable {σ τ : Type}

/-! ### Actions further on in a document -/

def TokenFailure.shift (count : Nat) (failure : TokenFailure) : TokenFailure :=
  { failure with token := failure.token.shift count }

def Action.shift (count : Nat) : Action σ → Action σ
  | .splice token text => .splice (token.shift count) text
  | .report failure => .report (failure.shift count)
  | action => action

theorem splice_shift (before document : List Char) (token : Token) (text : List Char) :
    splice (before ++ document) (token.shift before.length) text =
      before ++ splice document token text := by
  have start : before.length + token.start = token.start + before.length := Nat.add_comm ..
  have stop : before.length + token.stop = token.stop + before.length := Nat.add_comm ..
  simp only [splice, Token.shift, ← start, ← stop, List.take_length_add_append,
    List.drop_length_add_append, List.append_assoc]

theorem foldl_onDocument_shift (before document : List Char) (actions : List (Action σ)) :
    (actions.map (Action.shift before.length)).foldl Action.onDocument (before ++ document) =
      before ++ actions.foldl Action.onDocument document := by
  induction actions generalizing document with
  | nil => rfl
  | cons action actions ih =>
    rw [List.map_cons, List.foldl_cons, List.foldl_cons]
    cases action with
    | splice token text =>
      rw [Action.shift, Action.onDocument, Action.onDocument, splice_shift, ih]
    | _ => exact ih document

theorem reports_shift (count : Nat) (actions : List (Action σ)) :
    reports (actions.map (Action.shift count)) =
      (reports actions).map (TokenFailure.shift count) := by
  rw [reports, reports, List.filterMap_map, List.map_filterMap]
  congr 1
  funext action
  cases action <;> rfl

-- A replacement within the document does not reach what was put behind the document.
theorem foldl_onDocument_append {document : List Char} {actions : List (Action σ)}
    (within : InRange document actions) (after : List Char) :
    actions.foldl Action.onDocument (document ++ after) =
      actions.foldl Action.onDocument document ++ after := by
  induction actions generalizing document with
  | nil => rfl
  | cons action actions ih =>
    rw [List.foldl_cons, List.foldl_cons]
    cases action with
    | splice token text =>
      obtain ⟨forward, inside, within⟩ := within
      have same : splice (document ++ after) token text = splice document token text ++ after := by
        rw [splice, splice, List.take_append_of_le_length (Nat.le_trans forward inside),
          List.drop_append_of_le_length inside, List.append_assoc _ _ after]
      rw [Action.onDocument, Action.onDocument, same]
      exact ih within
    | _ => exact ih within

/-! ### Records -/

/-- Callables that no call changes: what a path leads to answers to its arguments alone and leaves
the state as it is. -/
def Stateless (layers : List (Value σ)) : Prop :=
  ∀ path call, lookup layers path = some (.function call) →
    ∃ answer : List String → Except CallError (Value σ),
      ∀ args host, call args host = (answer args, host)

section

variable {layers : List (Value σ)} {config : Config τ}

theorem Stateless.render (stateless : Stateless layers) {path : List String} {value : Value σ}
    (found : lookup layers path = some value) (args : List String) :
    ∃ result, ∀ host, value.render args host = (result, host) := by
  cases value with
  | function call =>
    obtain ⟨answer, same⟩ := stateless path call found
    simp only [Value.render, same]
    cases answer args with
    | error cause => exact ⟨_, fun _ => rfl⟩
    | ok value => cases value <;> exact ⟨_, fun _ => rfl⟩
  | _ => exact ⟨_, fun _ => rfl⟩

theorem Stateless.attempt (stateless : Stateless layers) (scanned : Except ScanFailure Token) :
    ∃ outcome, ∀ host, attempt layers host scanned = (scannedToken scanned, outcome, host) := by
  cases scanned with
  | error failure => exact ⟨_, fun _ => rfl⟩
  | ok token =>
    simp only [StyleTokens.attempt, replacement, scannedToken]
    cases found : lookup layers token.path with
    | none => exact ⟨_, fun _ => rfl⟩
    | some value =>
      obtain ⟨result, same⟩ := stateless.render found token.args
      simp only [same]
      rcases result with error | _ | text <;> exact ⟨_, fun _ => rfl⟩

theorem attempt_shifted (layers : List (Value σ)) (host : σ) (count : Nat)
    (scanned : Except ScanFailure Token) :
    attempt layers host (shifted count scanned) =
      ((scannedToken scanned).shift count, (attempt layers host scanned).2) := by
  cases scanned <;> rfl

theorem inquiries_shifted (layers : List (Value σ)) (count : Nat)
    (scanned : Except ScanFailure Token) :
    inquiries layers (shifted count scanned) =
      (inquiries layers scanned).map (Action.shift count) := by
  cases scanned with
  | error failure => rfl
  | ok token =>
    simp only [inquiries, shifted, Token.shift]
    split <;> rfl

-- The handler is told of other places, but a pass that goes on does not ask what it makes of them.
theorem record_shifted (goesOn : config.GoesOn) (count : Nat)
    (pending : List (Except ScanFailure Token)) (host : σ) (state state' : τ) :
    record layers config (pending.map (shifted count)) host state =
      (record layers config pending host state').map (Action.shift count) := by
  induction pending generalizing host state state' with
  | nil => rfl
  | cons scanned pending ih =>
    have same := attempt_token layers host scanned
    have moved := attempt_shifted layers host count scanned
    rcases tried : attempt layers host scanned with ⟨token, error | text, host'⟩
    · rw [tried] at same moved
      subst same
      rw [List.map_cons, record_of_not_ends moved (goesOn.not_ends _ _),
        record_of_not_ends tried (goesOn.not_ends _ _), inquiries_shifted, List.map_append,
        List.map_append, ih]
      rfl
    · rw [tried] at same moved
      subst same
      rw [List.map_cons, record_of_ok moved, record_of_ok tried, inquiries_shifted, List.map_append,
        List.map_append, ih]
      rfl

/-- The record of a pass that goes on depends on the tokens alone if no callable has a state. -/
theorem record_congr (stateless : Stateless layers) (goesOn : config.GoesOn)
    (pending : List (Except ScanFailure Token)) (host host' : σ) (state state' : τ) :
    record layers config pending host state = record layers config pending host' state' := by
  induction pending generalizing state state' with
  | nil => rfl
  | cons scanned pending ih =>
    obtain ⟨outcome, tried⟩ := stateless.attempt scanned
    cases outcome with
    | error error =>
      rw [record_of_not_ends (tried host) (goesOn.not_ends _ _),
        record_of_not_ends (tried host') (goesOn.not_ends _ _), ih]
    | ok text => rw [record_of_ok (tried host), record_of_ok (tried host'), ih]

theorem record_append (stateless : Stateless layers) (goesOn : config.GoesOn)
    (first second : List (Except ScanFailure Token)) (host : σ) (state : τ) :
    record layers config (first ++ second) host state =
      record layers config first host state ++ record layers config second host state := by
  induction first generalizing state with
  | nil => rfl
  | cons scanned first ih =>
    obtain ⟨outcome, tried⟩ := stateless.attempt scanned
    rw [List.cons_append]
    cases outcome with
    | error error =>
      rw [record_of_not_ends (tried host) (goesOn.not_ends _ _),
        record_of_not_ends (tried host) (goesOn.not_ends _ _), ih, List.append_assoc _ _ (record ..),
        record_congr stateless goesOn second host host state]
    | ok text =>
      rw [record_of_ok (tried host), record_of_ok (tried host), ih,
        List.append_assoc _ _ (record ..)]

end

/-- What a record makes of a document, and the failures it reports. -/
def recorded (document : List Char) (actions : List (Action σ)) : Substitution :=
  ⟨String.ofList (actions.foldl Action.onDocument document), reports actions⟩

/-- A pass that goes on gives what its record comes to. -/
theorem settle_of_goesOn (layers : List (Value σ)) {config : Config τ} (goesOn : config.GoesOn)
    (pending : List (Except ScanFailure Token)) (document : List Char) (host : σ) (state : τ) :
    (settle layers config pending document host state).1 =
      .ok (recorded document (record layers config pending host state)) := by
  obtain ⟨done, went, -⟩ := settle_follows layers goesOn config pending document host state state
  obtain ⟨text, failures⟩ :=
    (settle_accounts layers config pending document host state).done done went
  rw [went, recorded, ← text, ← failures]

/-- Behind a text that ends safely any other may stand: the tokens of both together are those of the
one and, further on, those of the other. A pass that goes on, with callables that have no state,
gives the texts of both passes one after the other, and leaves in place the tokens of both. -/
theorem append_of_safeEnd (first second : String) (safe : SafeEnd first) :
    scan (first ++ second) = scan first ++ (scan second).map (shifted first.length) ∧
      ∀ (σ τ : Type) (normalize : String → String) (layers : List (Value σ)) (config : Config τ),
        normalize first = first → normalize second = second →
        normalize (first ++ second) = first ++ second →
        Stateless layers → config.GoesOn →
        ∀ (host host₁ host₂ : σ) (state state₁ state₂ : τ), ∃ done₁ done₂,
          (substituteBy normalize layers first config host₁ state₁).1 = .ok done₁ ∧
          (substituteBy normalize layers second config host₂ state₂).1 = .ok done₂ ∧
          (substituteBy normalize layers (first ++ second) config host state).1 =
            .ok ⟨done₁.text ++ done₂.text,
              done₂.failures.map (TokenFailure.shift first.length) ++ done₁.failures⟩ := by
  have together := safe.scan_append second
  refine ⟨together, ?_⟩
  intro σ τ normalize layers config normal₁ normal₂ normal stateless goesOn host host₁ host₂ state
    state₁ state₂
  let actions₁ := record layers config (scan first).reverse host₁ state₁
  let actions₂ := record layers config (scan second).reverse host₂ state₂
  have actions : record layers config (scan (first ++ second)).reverse host state =
      actions₂.map (Action.shift first.toList.length) ++ actions₁ := by
    rw [together, List.reverse_append, ← List.map_reverse, record_append stateless goesOn,
      record_shifted goesOn _ _ _ _ state, String.length_toList,
      record_congr stateless goesOn _ host host₂ state state₂,
      record_congr stateless goesOn _ host host₁ state state₁]
  refine ⟨recorded first.toList actions₁, recorded second.toList actions₂, ?_, ?_, ?_⟩
  · rw [substituteBy, normal₁]
    exact settle_of_goesOn layers goesOn ..
  · rw [substituteBy, normal₂]
    exact settle_of_goesOn layers goesOn ..
  · rw [substituteBy, normal]
    refine (settle_of_goesOn layers goesOn ..).trans ?_
    rw [actions, recorded, List.foldl_append, String.toList_append, foldl_onDocument_shift,
      foldl_onDocument_append (inRange_scan ..), reports_append, reports_shift,
      String.length_toList, String.ofList_append]
    rfl

/-- A callable that counts the arguments it is given, and nothing else. -/
def counting : List String → Nat → Except CallError (Value Nat) × Nat :=
  fun args host => (.ok (.bigInteger args.length), host)

theorem stateless_counting : Stateless [.object [("f", .function counting)]] := by
  intro path call found
  cases path with
  | nil => cases found
  | cons key path =>
    by_cases same : key = "f"
    · subst same
      cases path with
      | nil =>
        cases found
        exact ⟨_, fun _ _ => rfl⟩
      | cons key path => cases found
    · have other : (key == "f") = false := beq_eq_false_iff_ne.2 same
      simp [lookup, Value.walk?, Value.get?, List.lookup_cons, other] at found

theorem substituteBy_counting :
    let first := "$f(1, 2) $m;"
    let second := " ($f) $g("
    let layers := [.object [("f", .function counting)]]
    let config : Config Nat := ⟨false, "example", fun _ told => (.proceed, told + 1)⟩
    SafeEnd first ∧ Stateless layers ∧ config.GoesOn ∧
      (substituteBy id layers (first ++ second) config 0 0).1 = .ok ⟨"2 $m; (0) $g(",
        [⟨⟨18, 20, "$g", none, ["g"], []⟩, .scan (.missingArgument "g")⟩,
          ⟨⟨9, 11, "$m", none, ["m"], []⟩, .missing "m"⟩]⟩ := by
  intro first second layers config
  have scanned : scan first =
      [.ok ⟨0, 9, "$f(1, 2) ", some ' ', ["f"], ["1", "2"]⟩, .ok ⟨9, 11, "$m", none, ["m"], []⟩] := by
    decide +kernel
  have safe : SafeEnd first := by
    refine ⟨?_, ?_, ?_⟩
    · simp [scanned]
    · have last : first.toList.getLast? = some ';' := by decide +kernel
      rw [last]
      rintro c ⟨⟩
      decide
    · have length : first.length = 12 := by decide
      simp only [scanned, length, List.forall_mem_cons, scannedToken]
      refine ⟨?_, ?_, by simp⟩
      · omega
      · omega
  have goesOn : config.GoesOn := ⟨rfl, fun _ _ => rfl⟩
  obtain ⟨done₁, done₂, run₁, run₂, run⟩ :=
    (append_of_safeEnd first second safe).2 Nat Nat id layers config rfl rfl rfl stateless_counting
      goesOn 0 0 0 0 0 0
  have known₁ : (substituteBy id layers first config 0 0).1 =
      .ok ⟨"2 $m;", [⟨⟨9, 11, "$m", none, ["m"], []⟩, .missing "m"⟩]⟩ := by decide +kernel
  have known₂ : (substituteBy id layers second config 0 0).1 =
      .ok ⟨" (0) $g(", [⟨⟨6, 8, "$g", none, ["g"], []⟩, .scan (.missingArgument "g")⟩]⟩ := by
    decide +kernel
  rw [known₁] at run₁
  rw [known₂] at run₂
  cases run₁
  cases run₂
  refine ⟨safe, stateless_counting, goesOn, run.trans ?_⟩
  decide +kernel

end StyleTokens
