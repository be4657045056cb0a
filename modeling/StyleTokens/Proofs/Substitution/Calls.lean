import StyleTokens.Proofs.Substitution.Reference

/-! Which callables a pass calls. Callables can be made to write down their calls, wherever they
stand: in the layers, in lists and objects, and in what other callables give back. A pass over such
layers does the same as before, and what it leaves written down is one call for each token it comes
to whose path leads to a callable, in the order in which the tokens are settled. -/

set_option autoImplicit false

namespace StyleTokens

variable {σ τ : Type}

/-! ### Callables that write down their calls -/

structure Call (σ : Type) where
  function : List String → σ → Except CallError (Value σ) × σ
  args : List String

namespace Value

mutual

/-- The same value with callables that add each of their calls to a log. -/
def observed : Value σ → Value (σ × List (Call σ))
  | .null => .null
  | .boolean value => .boolean value
  | .integer value => .integer value
  | .bigInteger value => .bigInteger value
  | .string value => .string value
  | .array items => .array (observedItems items)
  | .object entries => .object (observedEntries entries)
  | .function call => .function fun args (host, log) =>
    observedAnswer (log ++ [⟨call, args⟩]) (call args host)

def observedItems : List (Value σ) → List (Value (σ × List (Call σ)))
  | [] => []
  | item :: items => item.observed :: observedItems items

def observedEntries : List (String × Value σ) → List (String × Value (σ × List (Call σ)))
  | [] => []
  | (key, value) :: entries => (key, value.observed) :: observedEntries entries

/-- What a call gives back is a value that may hold callables again. -/
def observedAnswer (log : List (Call σ)) : Except CallError (Value σ) × σ →
    Except CallError (Value (σ × List (Call σ))) × σ × List (Call σ)
  | (.error error, host) => (.error error, host, log)
  | (.ok value, host) => (.ok value.observed, host, log)

end

theorem lookup_observedEntries (key : String) (entries : List (String × Value σ)) :
    (observedEntries entries).lookup key = (entries.lookup key).map observed := by
  induction entries with
  | nil => rfl
  | cons entry entries ih =>
    obtain ⟨known, value⟩ := entry
    rw [observedEntries, List.lookup_cons, List.lookup_cons, ih]
    split <;> rfl

theorem get?_observed (key : String) (value : Value σ) :
    value.observed.get? key = (value.get? key).map observed := by
  cases value with
  | object entries => exact lookup_observedEntries key entries
  | _ => rfl

theorem walk?_observed (path : List String) (value : Value σ) :
    value.observed.walk? path = (value.walk? path).map observed := by
  induction path generalizing value with
  | nil => rfl
  | cons key path ih =>
    rw [walk?, walk?, get?_observed]
    cases value.get? key with
    | none => rfl
    | some value => exact ih value

mutual

theorem text?_observed : (value : Value σ) → value.observed.text? = value.text?
  | .array items => by
    rw [observed, text?, text?, texts_observed items]
  | .null | .boolean _ | .integer _ | .bigInteger _ | .string _ | .object _ | .function _ => rfl

theorem texts_observed : (items : List (Value σ)) → texts (observedItems items) = texts items
  | [] => rfl
  | item :: items => by
    rw [observedItems, texts, texts, text?_observed item, texts_observed items]

end

/-- The call that it takes to render a value. -/
def call? (args : List String) : Value σ → Option (Call σ)
  | .function call => some ⟨call, args⟩
  | _ => none

-- What a callable gives back is rendered by its text, which calls nothing, or refused.
theorem render_observed (args : List String) (host : σ) (log : List (Call σ)) (value : Value σ) :
    value.observed.render args (host, log) =
      ((value.render args host).1, (value.render args host).2,
        log ++ (value.call? args).toList) := by
  cases value with
  | function call =>
    simp only [observed, render, call?, Option.toList_some]
    rcases call args host with ⟨error | answer, host'⟩
    · rfl
    · have same := text?_observed answer
      cases answer with
      | array items => exact congrArg (·, host', log ++ [⟨call, args⟩]) same
      | _ => rfl
  | array items =>
    simp only [call?, Option.toList_none, List.append_nil]
    exact congrArg (·, host, log) (text?_observed (.array items))
  | _ =>
    simp only [call?, Option.toList_none, List.append_nil]
    rfl

end Value

theorem lookup_observed (layers : List (Value σ)) (path : List String) :
    lookup (layers.map Value.observed) path = (lookup layers path).map Value.observed := by
  induction layers with
  | nil => rfl
  | cons layer layers ih =>
    rw [lookup] at ih ⊢
    rw [List.map_cons, lookup, List.findSome?_cons, List.findSome?_cons, Value.walk?_observed]
    cases layer.walk? path with
    | none => exact ih
    | some value => rfl

/-- The call that it takes to settle a token. -/
def callOf? (layers : List (Value σ)) : Except ScanFailure Token → Option (Call σ)
  | .error _ => none
  | .ok token => (lookup layers token.path).bind (Value.call? token.args)

theorem attempt_observed (layers : List (Value σ)) (host : σ) (log : List (Call σ))
    (scanned : Except ScanFailure Token) :
    attempt (layers.map Value.observed) (host, log) scanned =
      ((attempt layers host scanned).1, (attempt layers host scanned).2.1,
        (attempt layers host scanned).2.2, log ++ (callOf? layers scanned).toList) := by
  cases scanned with
  | error failure => simp [attempt, callOf?]
  | ok token =>
    simp only [attempt, replacement, callOf?, lookup_observed]
    cases lookup layers token.path with
    | none => simp
    | some value =>
      simp only [Option.map_some, Option.bind_some, Value.render_observed]
      rcases value.render token.args host with ⟨_ | _ | text, host'⟩ <;> rfl

/-! ### The tokens to which a pass comes -/

/-- The tokens that a pass settles: all that are pending, or those up to the one whose failure ended
it. -/
structure Settles (pending settled : List (Except ScanFailure Token))
    (result : Except TokenFailure Substitution) : Prop where
  beginning : settled <+: pending
  all : ∀ done, result = .ok done → settled = pending
  last : ∀ failure, result = .error failure →
    ∃ before scanned, settled = before ++ [scanned] ∧ scannedToken scanned = failure.token

section

variable {pending settled : List (Except ScanFailure Token)}
  {outcome : Except TokenFailure Substitution × σ × τ}

theorem Settles.cons (later : Settles pending settled outcome.1)
    (scanned : Except ScanFailure Token) (failures : List TokenFailure) :
    Settles (scanned :: pending) (scanned :: settled) (leaving failures outcome).1 := by
  obtain ⟨result, rest⟩ := outcome
  refine ⟨List.cons_prefix_cons.2 ⟨rfl, later.beginning⟩, ?_, ?_⟩
  · intro done went
    cases result with
    | error failure => cases went
    | ok done' => rw [later.all done' rfl]
  · intro failure ended
    cases result with
    | error failure' =>
      cases ended
      obtain ⟨before, last, same, token⟩ := later.last failure rfl
      exact ⟨scanned :: before, last, by rw [same, List.cons_append], token⟩
    | ok done => cases ended

end

theorem filterMap_callOf_cons (layers : List (Value σ)) (scanned : Except ScanFailure Token)
    (settled : List (Except ScanFailure Token)) :
    (scanned :: settled).filterMap (callOf? layers) =
      (callOf? layers scanned).toList ++ settled.filterMap (callOf? layers) := by
  rw [List.filterMap_cons]
  cases callOf? layers scanned <;> rfl

-- Both passes see the same answers, so the handler is told the same and the passes end together.
theorem settle_observed (layers : List (Value σ)) (config : Config τ)
    (pending : List (Except ScanFailure Token)) (document : List Char) (host : σ)
    (log : List (Call σ)) (state : τ) :
    let plain := settle layers config pending document host state
    ∃ settled, Settles pending settled plain.1 ∧
      settle (layers.map Value.observed) config pending document (host, log) state =
        (plain.1, (plain.2.1, log ++ settled.filterMap (callOf? layers)), plain.2.2) := by
  induction pending generalizing document host log state with
  | nil =>
    refine ⟨[], ⟨List.prefix_rfl, fun _ _ => rfl, ?_⟩, ?_⟩
    · rintro failure ⟨⟩
    · simp
  | cons scanned pending ih =>
    have token := attempt_token layers host scanned
    have observed := attempt_observed layers host log scanned
    rcases tried : attempt layers host scanned with ⟨_, error | text, host'⟩
    · rw [tried] at token observed
      subst token
      by_cases ends : config.Ends ⟨scannedToken scanned, error⟩ state
      · rw [settle_of_ends tried ends, settle_of_ends observed ends]
        refine ⟨[scanned], ⟨by simp, ?_, ?_⟩, ?_⟩
        · rintro done ⟨⟩
        · rintro failure ⟨⟩
          exact ⟨[], scanned, rfl, rfl⟩
        · rw [filterMap_callOf_cons, List.filterMap_nil, List.append_nil]
      · obtain ⟨settled, settles, same⟩ := ih document host'
          (log ++ (callOf? layers scanned).toList) (config.tell state ⟨scannedToken scanned, error⟩)
        refine ⟨scanned :: settled, ?_, ?_⟩
        · rw [settle_of_not_ends tried ends]
          exact settles.cons scanned _
        · rw [settle_of_not_ends tried ends, settle_of_not_ends observed ends, same,
            filterMap_callOf_cons, ← List.append_assoc]
          rfl
    · rw [tried] at token observed
      subst token
      obtain ⟨settled, settles, same⟩ := ih (splice document (scannedToken scanned) text) host'
        (log ++ (callOf? layers scanned).toList) state
      refine ⟨scanned :: settled, ?_, ?_⟩
      · rw [settle_of_ok tried, ← leaving_nil (settle layers config pending _ host' state)]
        exact settles.cons scanned []
      · rw [settle_of_ok tried, settle_of_ok observed, same, filterMap_callOf_cons,
          ← List.append_assoc]

theorem token_of_callOf {layers : List (Value σ)} {scanned : Except ScanFailure Token}
    {call : Call σ} (made : callOf? layers scanned = some call) :
    ∃ token, scanned = .ok token ∧
      lookup layers token.path = some (.function call.function) ∧ call.args = token.args := by
  cases scanned with
  | error failure => cases made
  | ok token =>
    obtain ⟨value, found, called⟩ := Option.bind_eq_some_iff.1 made
    cases value with
    | function function =>
      cases called
      exact ⟨token, rfl, found, rfl⟩
    | _ => cases called

/-- The calls of a pass. Over layers whose callables write down their calls a pass does what it does
over the layers as they are, and leaves written down the calls of the tokens it settles, from the
last one of the text on: one for each well-formed token whose path leads to a callable, with the
arguments of the token. -/
theorem substituteBy_observed (normalize : String → String) (layers : List (Value σ))
    (text : String) (config : Config τ) (host : σ) (state : τ) :
    let plain := substituteBy normalize layers text config host state
    ∃ settled,
      Settles (scan (normalize text)).reverse settled plain.1 ∧
      let calls := settled.filterMap (callOf? layers)
      substituteBy normalize (layers.map Value.observed) text config (host, []) state =
          (plain.1, (plain.2.1, calls), plain.2.2) ∧
        calls.length ≤ settled.length ∧
        ∀ call ∈ calls, ∃ token, .ok token ∈ settled ∧
          lookup layers token.path = some (.function call.function) ∧ call.args = token.args := by
  intro plain
  obtain ⟨settled, settles, same⟩ := settle_observed layers config (scan (normalize text)).reverse
    (normalize text).toList host [] state
  refine ⟨settled, settles, same, List.length_filterMap_le .., ?_⟩
  intro call found
  obtain ⟨scanned, inside, made⟩ := List.mem_filterMap.1 found
  obtain ⟨token, rfl, leads⟩ := token_of_callOf made
  exact ⟨token, inside, leads⟩

-- The callable in the list, the one that `g` gives back and the arguments of `n` come to nothing.
example :
    let count : Value Nat := .function fun args host => (.ok (.bigInteger args.length), host + 1)
    let given : Value Nat := .function fun _ host => (.ok count, host + 1)
    let layers := [.object [("f", count), ("g", given), ("l", .array [count]), ("n", .null)]]
    let config : Config Nat := ⟨false, "example", fun _ told => (.proceed, told + 1)⟩
    let outcome := substituteBy id (layers.map Value.observed) "$f(1, 2) $l $g(3) $n(4) $f(5"
      config (0, []) 0
    outcome.2.1.2.map Call.args = [["3"], ["1", "2"]] ∧ outcome.2.1.1 = 2 ∧ outcome.2.2 = 3 := by
  decide +kernel

end StyleTokens
