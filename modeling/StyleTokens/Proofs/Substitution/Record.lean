import StyleTokens.Proofs.Token.Tiling
import StyleTokens.Substitution

/-! The record of a pass: every question to the layers, call, replacement and report, in the order in
which they happen. It runs along with the pass and stops where the pass stops, and what the pass
leaves behind is what its actions do one after the other. -/

set_option autoImplicit false

namespace StyleTokens

variable {σ τ : Type}

/-! ### Answers to reports -/

namespace Config

def tell (config : Config τ) (state : τ) (failure : TokenFailure) : τ :=
  (config.onFailure ⟨failure, config.reference⟩ state).2

def Ends (config : Config τ) (failure : TokenFailure) (state : τ) : Prop :=
  config.strict = true ∨ (config.onFailure ⟨failure, config.reference⟩ state).1 = .stop

/-- No failure ends a pass. -/
structure GoesOn (config : Config τ) : Prop where
  lenient : config.strict = false
  proceeds : ∀ report state, (config.onFailure report state).1 = .proceed

theorem GoesOn.not_ends {config : Config τ} (goesOn : config.GoesOn) (failure : TokenFailure)
    (state : τ) : ¬config.Ends failure state := by
  rintro (strict | stop)
  · rw [goesOn.lenient] at strict
    cases strict
  · rw [goesOn.proceeds] at stop
    cases stop

end Config

/-! ### Actions -/

inductive Action (σ : Type) where
  | lookUp (path : List String)
  | call (function : List String → σ → Except CallError (Value σ) × σ) (args : List String)
  | splice (token : Token) (text : List Char)
  | report (failure : TokenFailure)

namespace Action

def onHost (host : σ) : Action σ → σ
  | call function args => (function args host).2
  | _ => host

def onDocument (document : List Char) : Action σ → List Char
  | splice token text => StyleTokens.splice document token text
  | _ => document

def reported? : Action σ → Option TokenFailure
  | report failure => some failure
  | _ => none

end Action

def reports (actions : List (Action σ)) : List TokenFailure := actions.filterMap Action.reported?

/-- What is asked of the layers and their callables for one token. -/
def inquiries (layers : List (Value σ)) : Except ScanFailure Token → List (Action σ)
  | .error _ => []
  | .ok token => .lookUp token.path ::
    match lookup layers token.path with
    | some (.function call) => [.call call token.args]
    | _ => []

/-- All that `settle` does with the pending tokens. -/
def record (layers : List (Value σ)) (config : Config τ) :
    List (Except ScanFailure Token) → σ → τ → List (Action σ)
  | [], _, _ => []
  | scanned :: pending, host, state => inquiries layers scanned ++
    match attempt layers host scanned with
    | (token, .ok text, host) => .splice token text :: record layers config pending host state
    | (token, .error error, host) =>
      let failure : TokenFailure := ⟨token, error⟩
      match config.onFailure ⟨failure, config.reference⟩ state with
      | (flow, state) => .report failure ::
        if config.strict ∨ flow = .stop then [] else record layers config pending host state

def recordBy (normalize : String → String) (layers : List (Value σ)) (text : String)
    (config : Config τ) (host : σ) (state : τ) : List (Action σ) :=
  record layers config (scan (normalize text)).reverse host state

@[simp] theorem reports_nil : reports ([] : List (Action σ)) = [] := rfl

@[simp] theorem reports_splice (token : Token) (text : List Char) (actions : List (Action σ)) :
    reports (.splice token text :: actions) = reports actions := rfl

@[simp] theorem reports_report (failure : TokenFailure) (actions : List (Action σ)) :
    reports (.report failure :: actions) = failure :: reports actions := rfl

@[simp] theorem reports_append (first second : List (Action σ)) :
    reports (first ++ second) = reports first ++ reports second := List.filterMap_append

@[simp] theorem reports_inquiries (layers : List (Value σ)) (scanned : Except ScanFailure Token) :
    reports (inquiries layers scanned) = [] := by
  cases scanned with
  | error => rfl
  | ok token =>
    simp only [inquiries]
    split <;> rfl

@[simp] theorem document_inquiries (layers : List (Value σ)) (scanned : Except ScanFailure Token)
    (document : List Char) : (inquiries layers scanned).foldl Action.onDocument document = document := by
  cases scanned with
  | error => rfl
  | ok token =>
    simp only [inquiries]
    split <;> rfl

theorem render_host (args : List String) (host : σ) (value : Value σ) :
    (value.render args host).2 =
      match value with
      | .function call => (call args host).2
      | _ => host := by
  cases value with
  | function call =>
    simp only [Value.render]
    rcases call args host with ⟨_ | value, after⟩
    · rfl
    · cases value <;> rfl
  | _ => rfl

theorem replacement_host {layers : List (Value σ)} {token : Token} {value : Value σ}
    (found : lookup layers token.path = some value) (host : σ) :
    (replacement layers token host).2 = (value.render token.args host).2 := by
  simp only [replacement, found]
  rcases value.render token.args host with ⟨_ | _ | text, after⟩ <;> rfl

-- So the calls on record are all there are: no others change the state of the callables.
@[simp] theorem host_inquiries (layers : List (Value σ)) (scanned : Except ScanFailure Token)
    (host : σ) :
    (inquiries layers scanned).foldl Action.onHost host = (attempt layers host scanned).2.2 := by
  cases scanned with
  | error => rfl
  | ok token =>
    cases found : lookup layers token.path with
    | none => simp [inquiries, attempt, replacement, found, Action.onHost]
    | some value =>
      simp only [attempt, replacement_host found, render_host, inquiries, found]
      cases value <;> rfl

/-! ### The three ways to settle a token -/

theorem attempt_token (layers : List (Value σ)) (host : σ) (scanned : Except ScanFailure Token) :
    (attempt layers host scanned).1 = scannedToken scanned := by
  cases scanned <;> rfl

/-- The outcome of a pass that had left these tokens in place before. -/
def leaving (failures : List TokenFailure) (outcome : Except TokenFailure Substitution × σ × τ) :
    Except TokenFailure Substitution × σ × τ :=
  (outcome.1.map fun done => { done with failures := failures ++ done.failures }, outcome.2)

@[simp] theorem leaving_nil (outcome : Except TokenFailure Substitution × σ × τ) :
    leaving [] outcome = outcome := by
  rcases outcome with ⟨_ | done, rest⟩ <;> rfl

@[simp] theorem leaving_snd (failures : List TokenFailure)
    (outcome : Except TokenFailure Substitution × σ × τ) : (leaving failures outcome).2 = outcome.2 :=
  rfl

@[simp] theorem leaving_ok (failures : List TokenFailure) (done : Substitution) (rest : σ × τ) :
    leaving failures (.ok done, rest) = (.ok ⟨done.text, failures ++ done.failures⟩, rest) := rfl

@[simp] theorem leaving_error (failures : List TokenFailure) (failure : TokenFailure) (rest : σ × τ) :
    leaving failures (.error failure, rest) = (.error failure, rest) := rfl

theorem leaving_leaving (first second : List TokenFailure)
    (outcome : Except TokenFailure Substitution × σ × τ) :
    leaving first (leaving second outcome) = leaving (first ++ second) outcome := by
  rcases outcome with ⟨_ | done, rest⟩
  · rfl
  · simp

section Steps

variable {layers : List (Value σ)} {config : Config τ} {scanned : Except ScanFailure Token}
  {pending : List (Except ScanFailure Token)} {document : List Char} {host host' : σ} {state : τ}
  {token : Token}

@[simp] theorem settle_nil : settle layers config [] document host state =
    (.ok ⟨String.ofList document, []⟩, host, state) := rfl

variable {m : Type → Type} [Monad m] {change : List Char → Token → List Char → m (List Char)}

theorem settleM_of_ok {text : List Char}
    (tried : attempt layers host scanned = (token, .ok text, host')) :
    settleM change layers config (scanned :: pending) document host state =
      change document token text >>= fun document =>
        settleM change layers config pending document host' state := by
  rw [settleM, tried]

theorem settle_of_ok {text : List Char} (tried : attempt layers host scanned = (token, .ok text, host')) :
    settle layers config (scanned :: pending) document host state =
      settle layers config pending (splice document token text) host' state := by
  rw [settle, settleM_of_ok tried]
  rfl

theorem record_of_ok {text : List Char} (tried : attempt layers host scanned = (token, .ok text, host')) :
    record layers config (scanned :: pending) host state =
      inquiries layers scanned ++ [.splice token text] ++ record layers config pending host' state := by
  rw [record, tried, List.append_assoc]
  rfl

variable {error : TokenError}

theorem settleM_of_ends (tried : attempt layers host scanned = (token, .error error, host'))
    (ends : config.Ends ⟨token, error⟩ state) :
    settleM change layers config (scanned :: pending) document host state =
      pure (.error ⟨token, error⟩, host', config.tell state ⟨token, error⟩) := by
  rw [settleM, tried]
  exact if_pos ends

theorem settle_of_ends (tried : attempt layers host scanned = (token, .error error, host'))
    (ends : config.Ends ⟨token, error⟩ state) :
    settle layers config (scanned :: pending) document host state =
      (.error ⟨token, error⟩, host', config.tell state ⟨token, error⟩) :=
  settleM_of_ends tried ends

theorem record_of_ends (tried : attempt layers host scanned = (token, .error error, host'))
    (ends : config.Ends ⟨token, error⟩ state) :
    record layers config (scanned :: pending) host state =
      inquiries layers scanned ++ [.report ⟨token, error⟩] := by
  rw [record, tried]
  exact congrArg (fun later => inquiries layers scanned ++ Action.report ⟨token, error⟩ :: later)
    (if_pos ends)

theorem settleM_of_not_ends (tried : attempt layers host scanned = (token, .error error, host'))
    (proceeds : ¬config.Ends ⟨token, error⟩ state) :
    settleM change layers config (scanned :: pending) document host state =
      settleM change layers config pending document host' (config.tell state ⟨token, error⟩) >>=
        fun outcome => pure (leaving [⟨token, error⟩] outcome) := by
  rw [settleM, tried, Config.tell]
  refine (if_neg proceeds).trans (congrArg (_ >>= ·) (funext fun outcome => ?_))
  rcases outcome with ⟨_ | done, rest⟩ <;> rfl

theorem settle_of_not_ends (tried : attempt layers host scanned = (token, .error error, host'))
    (proceeds : ¬config.Ends ⟨token, error⟩ state) :
    settle layers config (scanned :: pending) document host state =
      leaving [⟨token, error⟩]
        (settle layers config pending document host' (config.tell state ⟨token, error⟩)) := by
  rw [settle, settleM_of_not_ends tried proceeds]
  rfl

theorem record_of_not_ends (tried : attempt layers host scanned = (token, .error error, host'))
    (proceeds : ¬config.Ends ⟨token, error⟩ state) :
    record layers config (scanned :: pending) host state =
      inquiries layers scanned ++ [.report ⟨token, error⟩] ++
        record layers config pending host' (config.tell state ⟨token, error⟩) := by
  rw [record, tried, List.append_assoc]
  exact congrArg (fun later => inquiries layers scanned ++ Action.report ⟨token, error⟩ :: later)
    (if_neg proceeds)

end Steps

/-! ### Replaying a record -/

/-- A pass leaves behind what the actions on record do. -/
structure Accounts (config : Config τ) (actions : List (Action σ)) (document : List Char) (host : σ)
    (state : τ) (outcome : Except TokenFailure Substitution × σ × τ) : Prop where
  host : outcome.2.1 = actions.foldl Action.onHost host
  state : outcome.2.2 = (reports actions).foldl config.tell state
  done : ∀ done, outcome.1 = .ok done →
    done.text = String.ofList (actions.foldl Action.onDocument document) ∧
      done.failures = reports actions
  failure : ∀ failure, outcome.1 = .error failure → ∃ before, actions = before ++ [.report failure]

/-- What was done before a pass adds to its account. -/
theorem Accounts.extend {config : Config τ} {before actions : List (Action σ)}
    {failures : List TokenFailure} {document : List Char} {host : σ} {state : τ}
    {outcome : Except TokenFailure Substitution × σ × τ} (told : reports before = failures)
    (later : Accounts config actions (before.foldl Action.onDocument document)
      (before.foldl Action.onHost host) (failures.foldl config.tell state) outcome) :
    Accounts config (before ++ actions) document host state (leaving failures outcome) := by
  subst told
  obtain ⟨result, rest⟩ := outcome
  refine ⟨?_, ?_, ?_, ?_⟩
  · rw [leaving_snd, later.host, List.foldl_append]
  · rw [leaving_snd, later.state, reports_append, List.foldl_append]
  · intro done went
    cases result with
    | error failure => cases went
    | ok done' =>
      obtain ⟨text, failures⟩ := later.done done' rfl
      cases went
      exact ⟨by rw [text, List.foldl_append], by simp only [failures, reports_append]⟩
  · intro failure ended
    cases result with
    | error failure' =>
      cases ended
      obtain ⟨middle, last⟩ := later.failure failure rfl
      exact ⟨before ++ middle, by rw [last, List.append_assoc]⟩
    | ok done => cases ended

-- The record and the pass branch on the same attempt and the same answer, so each step of the one is
-- a step of the other.
theorem settle_accounts (layers : List (Value σ)) (config : Config τ)
    (pending : List (Except ScanFailure Token)) (document : List Char) (host : σ) (state : τ) :
    Accounts config (record layers config pending host state) document host state
      (settle layers config pending document host state) := by
  induction pending generalizing document host state with
  | nil =>
    refine ⟨rfl, rfl, ?_, ?_⟩
    · rintro done ⟨⟩
      exact ⟨rfl, rfl⟩
    · rintro failure ⟨⟩
  | cons scanned pending ih =>
    rcases tried : attempt layers host scanned with ⟨token, error | text, host'⟩
    · by_cases ends : config.Ends ⟨token, error⟩ state
      · rw [settle_of_ends tried ends, record_of_ends tried ends]
        refine ⟨by simp [tried, Action.onHost], by simp, ?_, ?_⟩
        · rintro done ⟨⟩
        · rintro failure ⟨⟩
          exact ⟨_, rfl⟩
      · rw [settle_of_not_ends tried ends, record_of_not_ends tried ends]
        apply Accounts.extend (by simp)
        simpa [tried, Action.onHost, Action.onDocument] using
          ih document host' (config.tell state ⟨token, error⟩)
    · rw [settle_of_ok tried, record_of_ok tried,
        ← leaving_nil (settle layers config pending (splice document token text) host' state)]
      apply Accounts.extend (by simp)
      simpa [tried, Action.onHost, Action.onDocument] using
        ih (splice document token text) host' state

end StyleTokens
