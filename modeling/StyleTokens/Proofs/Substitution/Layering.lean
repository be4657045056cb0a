import Mathlib.Data.List.Forall2
import StyleTokens.Proofs.Substitution.Calls
import StyleTokens.Proofs.Substitution.Concatenation
import StyleTokens.Proofs.Token.Shift
import StyleTokens.Proofs.Value.Data

/-! What a pass sees of its layers. All that it asks them is what the paths of its tokens lead to, so
two stacks that answer alike are the same to it. Layers that are put beneath a stack answer only
where the stack has nothing to say. -/

set_option autoImplicit false

namespace StyleTokens

variable {σ τ : Type}

/-! ### Stacks that answer alike -/

/-- Two stacks lead the paths of these tokens to the same values. -/
def Agree (scanned : List (Except ScanFailure Token)) (layers layers' : List (Value σ)) : Prop :=
  ∀ token, .ok token ∈ scanned → lookup layers token.path = lookup layers' token.path

section

variable {layers layers' : List (Value σ)} {scanned : Except ScanFailure Token}
  {pending : List (Except ScanFailure Token)}

theorem Agree.head (agree : Agree (scanned :: pending) layers layers') :
    Agree [scanned] layers layers' :=
  fun token found => agree token (List.mem_cons.2 (.inl (List.mem_singleton.1 found)))

theorem Agree.tail (agree : Agree (scanned :: pending) layers layers') :
    Agree pending layers layers' :=
  fun token found => agree token (List.mem_cons_of_mem _ found)

theorem Agree.observed (agree : Agree pending layers layers') :
    Agree pending (layers.map Value.observed) (layers'.map Value.observed) := by
  intro token found
  rw [lookup_observed, lookup_observed, agree token found]

theorem Agree.attempt (agree : Agree [scanned] layers layers') (host : σ) :
    attempt layers host scanned = attempt layers' host scanned := by
  cases scanned with
  | error failure => rfl
  | ok token =>
    have same := agree token List.mem_cons_self
    simp only [StyleTokens.attempt, replacement, same]

theorem Agree.inquiries (agree : Agree [scanned] layers layers') :
    inquiries layers scanned = inquiries layers' scanned := by
  cases scanned with
  | error failure => rfl
  | ok token =>
    have same := agree token List.mem_cons_self
    simp only [StyleTokens.inquiries, same]

/-- One step after the other, both passes make the same attempt and are given the same answer. -/
theorem Agree.settle (agree : Agree pending layers layers') (config : Config τ)
    (document : List Char) (host : σ) (state : τ) :
    settle layers config pending document host state =
      settle layers' config pending document host state := by
  induction pending generalizing document host state with
  | nil => rfl
  | cons scanned pending ih =>
    have same := agree.head.attempt host
    rcases tried : StyleTokens.attempt layers host scanned with ⟨token, error | text, host'⟩
    · rw [tried] at same
      by_cases ends : config.Ends ⟨token, error⟩ state
      · rw [settle_of_ends tried ends, settle_of_ends same.symm ends]
      · rw [settle_of_not_ends tried ends, settle_of_not_ends same.symm ends, ih agree.tail]
    · rw [tried] at same
      rw [settle_of_ok tried, settle_of_ok same.symm, ih agree.tail]

theorem Agree.record (agree : Agree pending layers layers') (config : Config τ) (host : σ)
    (state : τ) :
    record layers config pending host state = record layers' config pending host state := by
  induction pending generalizing host state with
  | nil => rfl
  | cons scanned pending ih =>
    have same := agree.head.attempt host
    have asked := agree.head.inquiries
    rcases tried : StyleTokens.attempt layers host scanned with ⟨token, error | text, host'⟩
    · rw [tried] at same
      by_cases ends : config.Ends ⟨token, error⟩ state
      · rw [record_of_ends tried ends, record_of_ends same.symm ends, asked]
      · rw [record_of_not_ends tried ends, record_of_not_ends same.symm ends, asked, ih agree.tail]
    · rw [tried] at same
      rw [record_of_ok tried, record_of_ok same.symm, asked, ih agree.tail]

end

/-- Stacks over which a pass does the same: it ends alike, asks, calls, replaces and reports the same
in the same order, and leaves the same calls written down where callables write down theirs. -/
structure SamePass (normalize : String → String) (text : String) (config : Config τ)
    (layers layers' : List (Value σ)) : Prop where
  outcome : ∀ host state,
    substituteBy normalize layers text config host state =
      substituteBy normalize layers' text config host state
  record : ∀ host state,
    recordBy normalize layers text config host state =
      recordBy normalize layers' text config host state
  calls : ∀ host log state,
    substituteBy normalize (layers.map Value.observed) text config (host, log) state =
      substituteBy normalize (layers'.map Value.observed) text config (host, log) state

theorem Agree.samePass {normalize : String → String} {text : String}
    {layers layers' : List (Value σ)} (agree : Agree (scan (normalize text)) layers layers')
    (config : Config τ) : SamePass normalize text config layers layers' := by
  have reversed : Agree (scan (normalize text)).reverse layers layers' :=
    fun token found => agree token (List.mem_reverse.1 found)
  exact ⟨fun host state => reversed.settle config _ host state,
    fun host state => reversed.record config host state,
    fun host log state => reversed.observed.settle config _ (host, log) state⟩

/-! ### Layers that are no objects -/

theorem path_of_scan {text : String} {token : Token} (found : .ok token ∈ scan text) :
    token.path ≠ [] := by
  have read := (Scanner.reads_ofString text).readToken_of_mem found
  obtain ⟨form, -, -, same⟩ := readToken_eq_ok_iff.1 read
  rw [same]
  exact fun empty => List.splitOn_ne_nil '.' form.name (List.map_eq_nil_iff.1 empty)

theorem agree_skip {text : String} {value : Value σ} (other : value.isObject = false)
    (above below : List (Value σ)) :
    Agree (scan text) (above ++ value :: below) (above ++ below) :=
  fun _ found => lookup_skip other (path_of_scan found) above below

/-! ### Layers beneath a stack -/

/-- The tokens on record, each with what became of it: the text in its place, or the error for which
it was left there. -/
def settlements (actions : List (Action σ)) : List (Token × Except TokenError (List Char)) :=
  actions.filterMap fun action =>
    match action with
    | .splice token text => some (token, .ok text)
    | .report failure => some (failure.token, .error failure.error)
    | _ => none

/-- What becomes of a token when more layers are asked: the same, unless there was no value for it. -/
structure Fills (before after : Token × Except TokenError (List Char)) : Prop where
  token : after.1 = before.1
  outcome : before.2 = .error (.missing before.1.dotted) ∨ after.2 = before.2

theorem Fills.of_ok {token : Token} {text : List Char}
    {after : Token × Except TokenError (List Char)} (fills : Fills (token, .ok text) after) :
    after = (token, .ok text) := by
  rcases fills.outcome with failed | same
  · cases failed
  · exact Prod.ext fills.token same

theorem settlements_append (first second : List (Action σ)) :
    settlements (first ++ second) = settlements first ++ settlements second := List.filterMap_append

theorem settlements_inquiries (layers : List (Value σ)) (scanned : Except ScanFailure Token) :
    settlements (inquiries layers scanned) = [] := by
  cases scanned with
  | error failure => rfl
  | ok token =>
    simp only [inquiries]
    split <;> rfl

section

variable {layers more : List (Value σ)} {config : Config τ}

theorem Stateless.append (stateless : Stateless layers) (stateless' : Stateless more) :
    Stateless (layers ++ more) := by
  intro path call found
  rw [lookup_append] at found
  rcases Option.or_eq_some_iff.1 found with found | ⟨-, found⟩
  · exact stateless path call found
  · exact stateless' path call found

theorem Stateless.of_append (stateless : Stateless (layers ++ more)) : Stateless layers :=
  fun path call found => stateless path call (lookup_append_of_some found more)

theorem stateless_of_isData (data : ∀ layer ∈ layers, layer.isData) : Stateless layers := by
  intro path call found
  cases isData_lookup data found

-- The state of the callables is that of the start: no token changes it.
theorem Stateless.settlements_record (stateless : Stateless layers) (goesOn : config.GoesOn)
    (pending : List (Except ScanFailure Token)) (host : σ) (state : τ) :
    settlements (record layers config pending host state) =
      pending.map fun scanned =>
        (scannedToken scanned, (StyleTokens.attempt layers host scanned).2.1) := by
  induction pending generalizing state with
  | nil => rfl
  | cons scanned pending ih =>
    obtain ⟨outcome, same⟩ := stateless.attempt scanned
    have tried := same host
    rw [List.map_cons, tried]
    cases outcome with
    | error error =>
      rw [record_of_not_ends tried (goesOn.not_ends _ _), settlements_append, settlements_append,
        settlements_inquiries, ih]
      rfl
    | ok text =>
      rw [record_of_ok tried, settlements_append, settlements_append, settlements_inquiries, ih]
      rfl

theorem fills_attempt (layers more : List (Value σ)) (host : σ)
    (scanned : Except ScanFailure Token) :
    Fills (scannedToken scanned, (attempt layers host scanned).2.1)
      (scannedToken scanned, (attempt (layers ++ more) host scanned).2.1) := by
  refine ⟨rfl, ?_⟩
  cases scanned with
  | error failure => exact .inr rfl
  | ok token =>
    cases found : lookup layers token.path with
    | none => exact .inl (by simp [attempt, replacement, found, scannedToken])
    | some value =>
      exact .inr (by simp only [attempt, replacement, lookup_append_of_some found more, found])

theorem Stateless.fills (stateless : Stateless (layers ++ more)) (goesOn : config.GoesOn)
    (pending : List (Except ScanFailure Token)) (host : σ) (state : τ) :
    List.Forall₂ Fills (settlements (record layers config pending host state))
      (settlements (record (layers ++ more) config pending host state)) := by
  rw [stateless.of_append.settlements_record goesOn, stateless.settlements_record goesOn,
    List.forall₂_map_left_iff, List.forall₂_map_right_iff, List.forall₂_same]
  exact fun scanned _ => fills_attempt layers more host scanned

end

/-- A pass sees of its layers what the paths of its tokens lead to, so over stacks that agree on these
it does the same. No path of a token is empty, so a layer that is no object, for which a store warns,
changes no pass. Layers beneath a stack give values to tokens that had none, and leave what becomes
of all other tokens as it was, if the callables have no state and the pass goes on. -/
theorem substituteBy_layers (normalize : String → String) (text : String) :
    let scanned := scan (normalize text)
    let document := (normalize text).toList
    (∀ token, .ok token ∈ scanned → token.path ≠ []) ∧
    ∀ (σ τ : Type) (config : Config τ),
      (∀ layers layers' : List (Value σ), Agree scanned layers layers' →
        SamePass normalize text config layers layers') ∧
      (∀ (above below : List (Value σ)) (value : Value σ), value.isObject = false →
        SamePass normalize text config (above ++ value :: below) (above ++ below)) ∧
      (∀ (store : Layers σ) (value : Value σ) (source : Option String), value.isObject = false →
        (store.insert value source).events = store.events ++ [.notAnObject value.typeName] ∧
          SamePass normalize text config (store.insert value source).values store.values) ∧
      ∀ layers more : List (Value σ), Stateless (layers ++ more) → config.GoesOn →
        ∀ (host : σ) (state : τ),
          let actions := recordBy normalize layers text config host state
          let actions' := recordBy normalize (layers ++ more) text config host state
          (substituteBy normalize layers text config host state).1 =
              .ok (recorded document actions) ∧
            (substituteBy normalize (layers ++ more) text config host state).1 =
              .ok (recorded document actions') ∧
            (settlements actions).map Prod.fst = scanned.reverse.map scannedToken ∧
            List.Forall₂ Fills (settlements actions) (settlements actions') := by
  intro scanned document
  refine ⟨fun token found => path_of_scan found, ?_⟩
  intro σ τ config
  refine ⟨fun layers layers' agree => agree.samePass config, ?_, ?_, ?_⟩
  · intro above below value other
    exact (agree_skip other above below).samePass config
  · intro store value source other
    have agree : Agree scanned (store.values ++ [value]) (store.values ++ []) :=
      agree_skip other store.values []
    rw [List.append_nil] at agree
    exact ⟨by simp [Layers.insert, other], agree.samePass config⟩
  · intro layers more stateless goesOn host state
    refine ⟨settle_of_goesOn layers goesOn .., settle_of_goesOn (layers ++ more) goesOn .., ?_,
      stateless.fills goesOn ..⟩
    rw [recordBy, stateless.of_append.settlements_record goesOn, List.map_map]
    rfl

theorem substituteBy_beneath :
    let text := "$a.b $f(1) $m"
    let layers := [.object [("f", .function counting)], .object [("a", .object [("b", .string "x")])]]
    let other := [.object [("a", .object [("b", .string "x")])], .object [("f", .function counting)]]
    let more := [.object [("a", .object [("b", .string "y")]), ("m", .boolean true)]]
    let config : Config Nat := ⟨false, "example", fun _ told => (.proceed, told + 1)⟩
    let tokens : Token × Token × Token := (⟨0, 5, "$a.b ", some ' ', ["a", "b"], []⟩,
      ⟨5, 11, "$f(1) ", some ' ', ["f"], ["1"]⟩, ⟨11, 13, "$m", none, ["m"], []⟩)
    Agree (scan text) layers other ∧ (Value.null : Value Nat).isObject = false ∧
      Stateless (layers ++ more) ∧ config.GoesOn ∧
      substituteBy id (.null :: other) text config 0 0 =
        (.ok ⟨"x 1 $m", [⟨tokens.2.2, .missing "m"⟩]⟩, 0, 1) ∧
      ∃ outcome, settlements (recordBy id (layers ++ more) text config 0 0) =
        [(tokens.2.2, outcome), (tokens.2.1, .ok "1 ".toList), (tokens.1, .ok "x ".toList)] := by
  intro text layers other more config tokens
  have scanned : scan text = [.ok tokens.1, .ok tokens.2.1, .ok tokens.2.2] := by decide +kernel
  have agree : Agree (scan text) layers other := by
    intro token found
    rw [scanned] at found
    simp only [List.mem_cons, Except.ok.injEq, List.not_mem_nil, or_false] at found
    rcases found with rfl | rfl | rfl <;> rfl
  have stateless : Stateless (layers ++ more) :=
    stateless_counting.append (stateless_of_isData (List.all_eq_true.1 rfl))
  have goesOn : config.GoesOn := ⟨rfl, fun _ _ => rfl⟩
  obtain ⟨same, skipped, -, beneath⟩ := (substituteBy_layers id text).2 Nat Nat config
  refine ⟨agree, rfl, stateless, goesOn, ?_, ?_⟩
  · calc
      _ = substituteBy id other text config 0 0 := (skipped [] other .null rfl).outcome 0 0
      _ = substituteBy id layers text config 0 0 := ((same layers other agree).outcome 0 0).symm
      _ = _ := by decide +kernel
  · obtain ⟨-, -, -, filled⟩ := beneath layers more stateless goesOn 0 0
    have known : settlements (recordBy id layers text config 0 0) =
        [(tokens.2.2, .error (.missing "m")), (tokens.2.1, .ok "1 ".toList),
          (tokens.1, .ok "x ".toList)] := by decide +kernel
    rw [known] at filled
    obtain ⟨⟨token, outcome⟩, _, third, earlier, whole⟩ := List.forall₂_cons_left_iff.1 filled
    obtain ⟨_, _, second, earliest, rfl⟩ := List.forall₂_cons_left_iff.1 earlier
    obtain ⟨_, _, first, ⟨⟩, rfl⟩ := List.forall₂_cons_left_iff.1 earliest
    obtain rfl : token = tokens.2.2 := third.token
    exact ⟨outcome, by rw [whole, second.of_ok, first.of_ok]⟩

end StyleTokens
