import StyleTokens.Proofs.Substitution.Record

/-! When a pass ends early. A pass with any options does what a pass that goes on does, up to the
first failure that ends it: its record is a beginning of the other record, cut off after the report
of that failure. -/

set_option autoImplicit false

namespace StyleTokens

variable {σ τ ρ : Type}

/-! ### The failure that ends a pass -/

namespace Config

variable {config : Config τ} {failure : TokenFailure} {failures : List TokenFailure} {state : τ}
  {k : Nat}

/-- The failure at an index ends the pass, once the handler was told of those before it. -/
def EndsAt (config : Config τ) (failures : List TokenFailure) (state : τ) (k : Nat) : Prop :=
  ∃ failure, failures[k]? = some failure ∧
    config.Ends failure ((failures.take k).foldl config.tell state)

def EndsFirstAt (config : Config τ) (failures : List TokenFailure) (state : τ) (k : Nat) : Prop :=
  config.EndsAt failures state k ∧ ∀ j, j < k → ¬config.EndsAt failures state j

theorem not_endsAt_nil : ¬config.EndsAt [] state k := by
  rintro ⟨failure, found, -⟩
  simp at found

theorem endsAt_zero : config.EndsAt (failure :: failures) state 0 ↔ config.Ends failure state := by
  simp [EndsAt]

theorem endsAt_succ : config.EndsAt (failure :: failures) state (k + 1) ↔
    config.EndsAt failures (config.tell state failure) k := by
  simp [EndsAt]

theorem endsFirstAt_zero (ends : config.Ends failure state) :
    config.EndsFirstAt (failure :: failures) state 0 :=
  ⟨endsAt_zero.2 ends, fun j before => absurd before (Nat.not_lt_zero j)⟩

theorem EndsFirstAt.succ (later : config.EndsFirstAt failures (config.tell state failure) k)
    (proceeds : ¬config.Ends failure state) :
    config.EndsFirstAt (failure :: failures) state (k + 1) := by
  refine ⟨endsAt_succ.2 later.1, ?_⟩
  intro j before ends
  cases j with
  | zero => exact proceeds (endsAt_zero.1 ends)
  | succ j => exact later.2 j (Nat.lt_of_succ_lt_succ before) (endsAt_succ.1 ends)

theorem EndsFirstAt.unique {j : Nat} (here : config.EndsFirstAt failures state k)
    (there : config.EndsFirstAt failures state j) : k = j := by
  rcases Nat.lt_trichotomy k j with before | same | after
  · exact absurd here.1 (there.2 k before)
  · exact same
  · exact absurd there.1 (here.2 j after)

end Config

/-! ### A pass and the one that goes on -/

/-- A pass that ended with the failure at an index did what the whole pass did, and told the handler
of the failures up to this one. -/
structure CutAt (failures : List TokenFailure) (whole : List (Action σ)) (k : Nat)
    (result : Except TokenFailure Substitution) (actions : List (Action σ)) : Prop where
  failure : ∃ failure, failures[k]? = some failure ∧ result = .error failure
  reported : reports actions = failures.take (k + 1)
  beginning : actions <+: whole

/-- A pass against the one that goes on: it is cut off at the first failure that ends it, or does the
same if there is none. -/
def Follows (config : Config τ) (state : τ) (lenient : Substitution) (whole : List (Action σ))
    (result : Except TokenFailure Substitution) (actions : List (Action σ)) : Prop :=
  (∃ k, config.EndsFirstAt lenient.failures state k ∧
    CutAt lenient.failures whole k result actions) ∨
  (∀ k, ¬config.EndsAt lenient.failures state k) ∧ actions = whole ∧ result = .ok lenient

section

variable {config : Config τ} {state : τ} {lenient : Substitution} {failure : TokenFailure}
  {failures : List TokenFailure} {whole actions : List (Action σ)} {k : Nat}

theorem CutAt.extend {outcome : Except TokenFailure Substitution × σ × τ}
    (later : CutAt failures whole k outcome.1 actions) (before : List (Action σ)) :
    CutAt (reports before ++ failures) (before ++ whole) ((reports before).length + k)
      (leaving (reports before) outcome).1 (before ++ actions) := by
  obtain ⟨failure, found, ended⟩ := later.failure
  refine ⟨⟨failure, ?_, ?_⟩, ?_, ?_⟩
  · rw [List.getElem?_append_right (Nat.le_add_right ..), Nat.add_sub_cancel_left, found]
  · rw [leaving, ended]
    rfl
  · rw [reports_append, later.reported, Nat.add_assoc, List.take_length_add_append]
  · exact (List.prefix_append_right_inj before).2 later.beginning

theorem Follows.after_splice {outcome : Except TokenFailure Substitution × σ × τ}
    (follows : Follows config state lenient whole outcome.1 actions) (before : List (Action σ))
    (quiet : reports before = []) :
    Follows config state lenient (before ++ whole) outcome.1 (before ++ actions) := by
  rcases follows with ⟨k, first, cut⟩ | ⟨none, same, result⟩
  · have further := cut.extend before
    refine .inl ⟨k, first, ?_⟩
    simpa [quiet] using further
  · exact .inr ⟨none, by rw [same], result⟩

theorem Follows.after_report {outcome : Except TokenFailure Substitution × σ × τ}
    (follows : Follows config (config.tell state failure) lenient whole outcome.1 actions)
    (proceeds : ¬config.Ends failure state) (before : List (Action σ))
    (told : reports before = [failure]) :
    Follows config state ⟨lenient.text, failure :: lenient.failures⟩ (before ++ whole)
      (leaving [failure] outcome).1 (before ++ actions) := by
  rcases follows with ⟨k, first, cut⟩ | ⟨none, same, result⟩
  · have further := cut.extend before
    refine .inl ⟨k + 1, first.succ proceeds, ?_⟩
    simpa [told, Nat.add_comm] using further
  · refine .inr ⟨?_, by rw [same], by rw [leaving, result]; rfl⟩
    rintro (_ | k)
    · exact fun here => proceeds (Config.endsAt_zero.1 here)
    · exact fun there => none k (Config.endsAt_succ.1 there)

/-- A strict pass goes through only if the other one leaves no token in place. If it ends, then with
the first failure of all, which is the rightmost. -/
theorem Follows.strict {result : Except TokenFailure Substitution}
    (follows : Follows config state lenient whole result actions) (strict : config.strict = true)
    (descending : lenient.failures.Pairwise fun first second =>
      second.token.start < first.token.start) :
    ((∃ done, result = .ok done) ↔ lenient.failures = []) ∧
      (∀ done, result = .ok done → done.text = lenient.text) ∧
      ∀ failure, result = .error failure →
        failure ∈ lenient.failures ∧ reports actions = [failure] ∧
          ∀ other ∈ lenient.failures, other.token.start ≤ failure.token.start := by
  obtain ⟨text, failures⟩ := lenient
  rcases follows with ⟨k, first, cut⟩ | ⟨none, -, rfl⟩
  · cases failures with
    | nil => exact absurd first.1 Config.not_endsAt_nil
    | cons failure later =>
      obtain rfl := first.unique (Config.endsFirstAt_zero (.inl strict))
      obtain ⟨failure', found, rfl⟩ := cut.failure
      cases found
      refine ⟨⟨?_, ?_⟩, ?_, ?_⟩
      · rintro ⟨done, ⟨⟩⟩
      · intro empty
        cases empty
      · rintro done ⟨⟩
      · rintro failure ⟨⟩
        refine ⟨List.mem_cons_self, cut.reported, ?_⟩
        rintro other (_ | ⟨_, found⟩)
        · exact Nat.le_refl _
        · exact Nat.le_of_lt ((List.pairwise_cons.1 descending).1 other found)
  · cases failures with
    | nil =>
      refine ⟨⟨fun _ => rfl, fun _ => ⟨_, rfl⟩⟩, ?_, ?_⟩
      · rintro done ⟨⟩
        rfl
      · rintro failure ⟨⟩
    | cons failure later => exact absurd (Config.endsAt_zero.2 (.inl strict)) (none 0)

end

-- The handlers may disagree, and their states are of different types, but both passes make the same
-- attempts from the same state of the callables for as long as they both run.
theorem settle_follows (layers : List (Value σ)) {quiet : Config ρ} (goesOn : quiet.GoesOn)
    (config : Config τ) (pending : List (Except ScanFailure Token)) (document : List Char)
    (host : σ) (quietState : ρ) (state : τ) :
    ∃ lenient, (settle layers quiet pending document host quietState).1 = .ok lenient ∧
      Follows config state lenient (record layers quiet pending host quietState)
        (settle layers config pending document host state).1
        (record layers config pending host state) := by
  induction pending generalizing document host quietState state with
  | nil =>
    exact ⟨⟨String.ofList document, []⟩, rfl, .inr ⟨fun k => Config.not_endsAt_nil, rfl, rfl⟩⟩
  | cons scanned pending ih =>
    rcases tried : attempt layers host scanned with ⟨token, error | text, host'⟩
    · -- both handlers are told of the failure, whatever they say
      obtain ⟨lenient, went, follows⟩ := ih document host' (quiet.tell quietState ⟨token, error⟩)
        (config.tell state ⟨token, error⟩)
      rw [settle_of_not_ends tried (goesOn.not_ends _ _),
        record_of_not_ends tried (goesOn.not_ends _ _)]
      refine ⟨⟨lenient.text, ⟨token, error⟩ :: lenient.failures⟩, by rw [leaving, went]; rfl, ?_⟩
      by_cases ends : config.Ends ⟨token, error⟩ state
      · rw [settle_of_ends tried ends, record_of_ends tried ends]
        exact .inl ⟨0, Config.endsFirstAt_zero ends, ⟨_, rfl, rfl⟩, by simp, List.prefix_append ..⟩
      · rw [settle_of_not_ends tried ends, record_of_not_ends tried ends]
        exact follows.after_report ends _ (by simp)
    · obtain ⟨lenient, went, follows⟩ := ih (splice document token text) host' quietState state
      rw [settle_of_ok tried, settle_of_ok tried, record_of_ok tried, record_of_ok tried]
      exact ⟨lenient, went, follows.after_splice _ (by simp)⟩

/-! ### Reports -/

/-- Each token is reported once at most, in the order in which the tokens are settled. -/
theorem reports_sublist (layers : List (Value σ)) (config : Config τ)
    (pending : List (Except ScanFailure Token)) (host : σ) (state : τ) :
    ((reports (record layers config pending host state)).map TokenFailure.token).Sublist
      (pending.map scannedToken) := by
  induction pending generalizing host state with
  | nil => exact .slnil
  | cons scanned pending ih =>
    have same := attempt_token layers host scanned
    rcases tried : attempt layers host scanned with ⟨token, error | text, host'⟩
    · rw [tried] at same
      subst same
      by_cases ends : config.Ends ⟨scannedToken scanned, error⟩ state
      · rw [record_of_ends tried ends]
        simp
      · rw [record_of_not_ends tried ends]
        simpa using ih host' _
    · rw [record_of_ok tried]
      simpa using (ih host' state).cons (scannedToken scanned)

theorem reports_descending (normalize : String → String) (layers : List (Value σ)) (text : String)
    (config : Config τ) (host : σ) (state : τ) :
    (reports (recordBy normalize layers text config host state)).Pairwise fun first second =>
      second.token.start < first.token.start := by
  have tiles : Tiles (normalize text).toList 0 ((scan (normalize text)).map scannedToken) :=
    (Scanner.reads_ofString (normalize text)).tiles
  have reported := reports_sublist layers config (scan (normalize text)).reverse host state
  rw [List.map_reverse] at reported
  exact List.pairwise_map.1 ((List.pairwise_reverse.2 tiles.ascending).sublist reported)

theorem foldl_tell_logFailure (strict : Bool) (reference : String) (failures : List TokenFailure)
    (log : List Event) :
    failures.foldl (Config.tell ⟨strict, reference, logFailure⟩) log =
      log ++ failures.map fun failure => Report.event ⟨failure, reference⟩ := by
  induction failures generalizing log with
  | nil => simp
  | cons failure failures ih =>
    rw [List.foldl_cons, ih, List.map_cons, List.append_cons]
    rfl

theorem substituteBy_logFailure (normalize : String → String) (layers : List (Value σ))
    (text : String) (strict : Bool) (reference : String) (host : σ) (log : List Event) :
    let config : Config (List Event) := ⟨strict, reference, logFailure⟩
    let told := reports (recordBy normalize layers text config host log)
    let events := told.map fun failure => Report.event ⟨failure, reference⟩
    (substituteBy normalize layers text config host log).2.2 = log ++ events ∧
      ∀ event ∈ events, event.level = .error := by
  intro config told events
  constructor
  · have accounts : Accounts config (recordBy normalize layers text config host log)
        (normalize text).toList host log (substituteBy normalize layers text config host log) :=
      settle_accounts ..
    rw [accounts.state, foldl_tell_logFailure]
  · intro event found
    obtain ⟨failure, -, rfl⟩ := List.mem_map.1 found
    rfl

/-! ### Passes over a text -/

/-- A pass with any options and a pass that goes on, over the same text. The first is cut off at the
first failure that ends it, or does the same as the other if there is none; a strict pass is cut off
at the rightmost failure. The default handler adds one event for each failure it is told of. -/
theorem substituteBy_follows (normalize : String → String) (layers : List (Value σ))
    (text : String) (quiet : Config ρ) (goesOn : quiet.GoesOn) (config : Config τ) (host : σ)
    (quietState : ρ) (state : τ) :
    let outcome := substituteBy normalize layers text config host state
    let actions := recordBy normalize layers text config host state
    let whole := recordBy normalize layers text quiet host quietState
    ∃ lenient host' quietState',
      substituteBy normalize layers text quiet host quietState =
          (.ok lenient, host', quietState') ∧
        lenient.failures = reports whole ∧
        lenient.failures.Pairwise (fun first second => second.token.start < first.token.start) ∧
        Accounts config actions (normalize text).toList host state outcome ∧
        ((∃ k, config.EndsFirstAt lenient.failures state k ∧
            CutAt lenient.failures whole k outcome.1 actions) ∨
          (∀ k, ¬config.EndsAt lenient.failures state k) ∧ actions = whole ∧
            outcome = (.ok lenient, host', lenient.failures.foldl config.tell state)) ∧
        (config.strict = true →
          ((∃ done, outcome.1 = .ok done) ↔ lenient.failures = []) ∧
            (∀ done, outcome.1 = .ok done → done.text = lenient.text) ∧
            ∀ failure, outcome.1 = .error failure →
              failure ∈ lenient.failures ∧ reports actions = [failure] ∧
                ∀ other ∈ lenient.failures, other.token.start ≤ failure.token.start) ∧
        ∀ strict reference log,
          let logging : Config (List Event) := ⟨strict, reference, logFailure⟩
          let told := reports (recordBy normalize layers text logging host log)
          let events := told.map fun failure => Report.event ⟨failure, reference⟩
          (substituteBy normalize layers text logging host log).2.2 = log ++ events ∧
            ∀ event ∈ events, event.level = .error := by
  intro outcome actions whole
  obtain ⟨lenient, went, follows⟩ := settle_follows layers goesOn config
    (scan (normalize text)).reverse (normalize text).toList host quietState state
  have accounts : Accounts config actions (normalize text).toList host state outcome :=
    settle_accounts ..
  have wholeAccounts : Accounts quiet whole (normalize text).toList host quietState
      (substituteBy normalize layers text quiet host quietState) := settle_accounts ..
  have reported : lenient.failures = reports whole := (wholeAccounts.done lenient went).2
  have descending : lenient.failures.Pairwise fun first second =>
      second.token.start < first.token.start := by
    rw [reported]
    apply reports_descending
  refine ⟨lenient, _, _, Prod.ext went rfl, reported, descending, accounts, ?_, ?_, ?_⟩
  · rcases follows with cut | ⟨none, same, result⟩
    · exact .inl cut
    · refine .inr ⟨none, same, Prod.ext result (Prod.ext ?_ ?_)⟩
      · rw [accounts.host, wholeAccounts.host]
        exact congrArg (List.foldl Action.onHost host) same
      · rw [accounts.state, reported]
        exact congrArg (fun actions => (reports actions).foldl config.tell state) same
  · intro strict
    exact follows.strict strict descending
  · intro strict reference log
    apply substituteBy_logFailure

/-- A handler that counts the failures and ends the pass with the second one. -/
def stopAtSecond : Handler Nat := fun _ told => (if told = 1 then .stop else .proceed, told + 1)

theorem stopAtSecond_ends (reference : String) (first second : TokenFailure)
    (later : List TokenFailure) :
    Config.EndsFirstAt ⟨false, reference, stopAtSecond⟩ (first :: second :: later) 0 1 := by
  have ends : Config.Ends ⟨false, reference, stopAtSecond⟩ second 1 := .inr rfl
  refine (Config.endsFirstAt_zero ends).succ ?_
  rintro (strict | stop)
  · cases strict
  · cases stop

theorem substituteBy_stopAtSecond :
    let layers : List (Value Unit) := []
    let quiet : Config Nat := ⟨false, "example", fun _ told => (.proceed, told + 1)⟩
    let outcome := substituteBy id layers "$a $b $c" ⟨false, "example", stopAtSecond⟩ () 0
    quiet.GoesOn ∧ outcome.2.2 = 2 ∧
      outcome.1 = .error ⟨⟨3, 6, "$b ", some ' ', ["b"], []⟩, .missing "b"⟩ := by
  intro layers quiet outcome
  have goesOn : quiet.GoesOn := ⟨rfl, fun _ _ => rfl⟩
  obtain ⟨lenient, _, _, run, -, -, accounts, cases, -⟩ :=
    substituteBy_follows id layers "$a $b $c" quiet goesOn ⟨false, "example", stopAtSecond⟩ () 0 0
  have known : substituteBy id layers "$a $b $c" quiet () 0 =
      (.ok ⟨"$a $b $c",
        [⟨⟨6, 8, "$c", none, ["c"], []⟩, .missing "c"⟩,
          ⟨⟨3, 6, "$b ", some ' ', ["b"], []⟩, .missing "b"⟩,
          ⟨⟨0, 3, "$a ", some ' ', ["a"], []⟩, .missing "a"⟩]⟩, (), 3) := by decide +kernel
  rw [known] at run
  cases run
  rcases cases with ⟨k, first, cut⟩ | ⟨none, -⟩
  · obtain rfl := first.unique (stopAtSecond_ends ..)
    obtain ⟨failure, found, ended⟩ := cut.failure
    cases found
    refine ⟨goesOn, ?_, ended⟩
    rw [accounts.state, cut.reported]
    rfl
  · exact absurd (stopAtSecond_ends ..).1 (none 1)

end StyleTokens
