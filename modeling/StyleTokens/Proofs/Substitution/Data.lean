import StyleTokens.Proofs.Substitution.Calls
import StyleTokens.Proofs.Substitution.Concatenation
import StyleTokens.Proofs.Value.Data

/-! A pass over layers of data, as they are read from files. It calls nothing, and which tokens stay
in place can be told from each token and the layers alone: the malformed ones, those without a value,
and those whose value is an object or has one in its lists. -/

set_option autoImplicit false

namespace StyleTokens

variable {σ τ : Type}

/-- Why a token stays in place where layers are data, if it does. -/
def defect? (layers : List (Value σ)) : Except ScanFailure Token → Option TokenFailure
  | .error failure => some ⟨failure.token, .scan failure.error⟩
  | .ok token =>
    match lookup layers token.path with
    | none => some ⟨token, .missing token.dotted⟩
    | some value =>
      if value.holdsObject then some ⟨token, .render (.unsupported "object")⟩ else none

section

variable {layers : List (Value σ)} {config : Config τ}

theorem attempt_of_isData (data : ∀ layer ∈ layers, layer.isData) (host : σ)
    (scanned : Except ScanFailure Token) :
    (∃ error, defect? layers scanned = some ⟨scannedToken scanned, error⟩ ∧
        attempt layers host scanned = (scannedToken scanned, .error error, host)) ∨
      (defect? layers scanned = none ∧
        ∃ text, attempt layers host scanned = (scannedToken scanned, .ok text, host)) := by
  cases scanned with
  | error failure => exact .inl ⟨_, rfl, rfl⟩
  | ok token =>
    simp only [defect?, attempt, replacement, scannedToken]
    cases found : lookup layers token.path with
    | none => exact .inl ⟨_, rfl, rfl⟩
    | some value =>
      have valueData := isData_lookup data found
      simp only [value.render_of_isData valueData]
      rcases value.text?_of_isData valueData with ⟨holds, failed⟩ | ⟨none, text, rendered⟩
      · rw [holds, failed]
        exact .inl ⟨_, rfl, rfl⟩
      · rw [none, rendered]
        cases text <;> exact .inr ⟨rfl, _, rfl⟩

theorem callOf?_of_isData (data : ∀ layer ∈ layers, layer.isData)
    (scanned : Except ScanFailure Token) : callOf? layers scanned = none := by
  cases called : callOf? layers scanned with
  | none => rfl
  | some call =>
    obtain ⟨token, -, found, -⟩ := token_of_callOf called
    cases isData_lookup data found

theorem host_of_isData (data : ∀ layer ∈ layers, layer.isData) (config : Config τ)
    (pending : List (Except ScanFailure Token)) (document : List Char) (host : σ) (state : τ) :
    (settle layers config pending document host state).2.1 = host := by
  induction pending generalizing document state with
  | nil => rfl
  | cons scanned pending ih =>
    rcases attempt_of_isData data host scanned with ⟨error, -, tried⟩ | ⟨-, text, tried⟩
    · by_cases ends : config.Ends ⟨scannedToken scanned, error⟩ state
      · rw [settle_of_ends tried ends]
      · rw [settle_of_not_ends tried ends, leaving_snd, ih]
    · rw [settle_of_ok tried, ih]

/-- Callables that write down their calls have nothing to write down. -/
theorem settle_observed_of_isData (data : ∀ layer ∈ layers, layer.isData) (config : Config τ)
    (pending : List (Except ScanFailure Token)) (document : List Char) (host : σ) (state : τ) :
    let outcome := settle layers config pending document host state
    settle (layers.map Value.observed) config pending document (host, []) state =
      (outcome.1, (host, []), outcome.2.2) := by
  intro outcome
  obtain ⟨settled, -, same⟩ := settle_observed layers config pending document host [] state
  have none : settled.filterMap (callOf? layers) = [] :=
    List.filterMap_eq_nil_iff.2 fun scanned _ => callOf?_of_isData data scanned
  rw [same, none, host_of_isData data]
  rfl

theorem failures_of_isData (data : ∀ layer ∈ layers, layer.isData) (goesOn : config.GoesOn)
    (pending : List (Except ScanFailure Token)) (host : σ) (state : τ) :
    reports (record layers config pending host state) = pending.filterMap (defect? layers) := by
  induction pending generalizing state with
  | nil => rfl
  | cons scanned pending ih =>
    rcases attempt_of_isData data host scanned with ⟨error, defect, tried⟩ | ⟨none, text, tried⟩
    · rw [record_of_not_ends tried (goesOn.not_ends _ _), List.filterMap_cons, defect]
      simpa using ih _
    · rw [record_of_ok tried, List.filterMap_cons, none]
      simpa using ih state

/-- A strict pass goes through exactly if no token has a defect, whatever the handler does. -/
theorem strict_of_isData (data : ∀ layer ∈ layers, layer.isData) (strict : config.strict = true)
    (pending : List (Except ScanFailure Token)) (document : List Char) (host : σ) (state : τ) :
    (∃ done, (settle layers config pending document host state).1 = .ok done) ↔
      ∀ scanned ∈ pending, defect? layers scanned = none := by
  induction pending generalizing document with
  | nil => exact ⟨by simp, fun _ => ⟨_, rfl⟩⟩
  | cons scanned pending ih =>
    rw [List.forall_mem_cons]
    rcases attempt_of_isData data host scanned with ⟨error, defect, tried⟩ | ⟨none, text, tried⟩
    · rw [settle_of_ends tried (.inl strict), defect]
      constructor
      · rintro ⟨done, ⟨⟩⟩
      · rintro ⟨⟨⟩, -⟩
    · rw [settle_of_ok tried, ih, none]
      exact ⟨fun later => ⟨rfl, later⟩, And.right⟩

end

/-- What is read from a file holds no callable, in whatever format: no tree of a format is turned into
a value that does. Over layers of such values a pass calls nothing. If it goes on, the tokens that it
leaves in place are those with a defect, each for that defect; if it is strict, it goes through
exactly if no token has one. -/
theorem substituteBy_data (normalize : String → String) (σ τ : Type) :
    (∀ node : Json.Node, (node.toValue : Value σ).isData) ∧
    (∀ node : Yaml.Node, (node.toValue : Value σ).isData) ∧
    (∀ node : Hcl.Node, (node.toValue : Value σ).isData) ∧
    (∀ (format : Format) (contents : String) (value : Value σ),
      format.parse contents = .ok value → value.isData) ∧
    ∀ layers : List (Value σ), (∀ layer ∈ layers, layer.isData) →
      ∀ (text : String) (config : Config τ) (host : σ) (state : τ),
        let scanned := scan (normalize text)
        let outcome := substituteBy normalize layers text config host state
        outcome.2.1 = host ∧
          substituteBy normalize (layers.map Value.observed) text config (host, []) state =
            (outcome.1, (host, []), outcome.2.2) ∧
          (config.GoesOn → ∃ done, outcome.1 = .ok done ∧
            done.failures = scanned.reverse.filterMap (defect? layers)) ∧
          (config.strict = true → ((∃ done, outcome.1 = .ok done) ↔
            ∀ one ∈ scanned, defect? layers one = none)) := by
  refine ⟨Json.Node.isData_toValue, Yaml.Node.isData_toValue, Hcl.Node.isData_toValue,
    fun format contents value => Format.isData_parse, ?_⟩
  intro layers data text config host state scanned outcome
  refine ⟨host_of_isData data .., settle_observed_of_isData data .., ?_, ?_⟩
  · intro goesOn
    refine ⟨_, settle_of_goesOn layers goesOn .., ?_⟩
    exact failures_of_isData data goesOn ..
  · intro strict
    refine (strict_of_isData data strict scanned.reverse _ host state).trans ?_
    simp only [List.mem_reverse]

theorem substituteBy_parsed :
    let contents := "\x7b\"a\": \"x\", \"o\": \x7b\"p\": [1, [null, \x7b\x7d]]\x7d\x7d"
    let config : Config Nat := ⟨false, "example", fun _ told => (.proceed, told + 1)⟩
    ∃ layer : Value Nat, Format.json.parse contents = .ok layer ∧ layer.isData ∧ config.GoesOn ∧
      ∃ done, (substituteBy id [layer] "$a $o.p $o $m $f(" config 0 0).1 = .ok done ∧
        done.failures.map TokenFailure.error =
          [.scan (.missingArgument "f"), .missing "m", .render (.unsupported "object"),
            .render (.unsupported "object")] ∧
        (∃ done, (substituteBy id [layer] "$a;$a" ⟨true, "example", config.onFailure⟩ 0 0).1 =
          .ok done) := by
  intro contents config
  let layer : Value Nat := (Format.json.parse contents).toOption.getD .null
  have parsed : Format.json.parse contents = .ok layer := by
    have read : (Format.json.parse contents : Except LoadError (Value Nat)).isOk = true := by
      decide +kernel
    cases found : (Format.json.parse contents : Except LoadError (Value Nat)) with
    | error error =>
      rw [found] at read
      cases read
    | ok value =>
      simp only [layer, found]
      rfl
  obtain ⟨-, -, -, ofFile, overData⟩ := substituteBy_data id Nat Nat
  have data : layer.isData := ofFile .json contents layer parsed
  have all : ∀ other ∈ [layer], other.isData := by simpa using data
  have goesOn : config.GoesOn := ⟨rfl, fun _ _ => rfl⟩
  obtain ⟨-, -, left, -⟩ := overData [layer] all "$a $o.p $o $m $f(" config 0 0
  obtain ⟨done, went, failures⟩ := left goesOn
  obtain ⟨-, -, -, strict⟩ := overData [layer] all "$a;$a" ⟨true, "example", config.onFailure⟩ 0 0
  refine ⟨layer, parsed, data, goesOn, done, went, ?_, (strict rfl).2 ?_⟩
  · rw [failures]
    decide +kernel
  · decide +kernel

end StyleTokens
