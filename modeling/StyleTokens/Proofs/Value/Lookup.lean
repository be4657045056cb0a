import StyleTokens.Lookup

/-! Paths through stacks of layers. A stack is searched from the top, so layers beneath it are asked
only for what it does not define, and a layer that is no object defines no path of a token. What
decides is the first layer in which the whole path leads to something, whatever that is. -/

set_option autoImplicit false

namespace StyleTokens

variable {σ : Type} {layers more : List (Value σ)} {path : List String} {value : Value σ}

theorem Value.get?_of_not_object (other : value.isObject = false) (key : String) :
    value.get? key = none := by
  cases value with
  | object entries => cases other
  | _ => rfl

theorem Value.walk?_of_not_object (other : value.isObject = false) (filled : path ≠ []) :
    value.walk? path = none := by
  cases path with
  | nil => exact absurd rfl filled
  | cons key path => rw [walk?, get?_of_not_object other, Option.bind_none]

@[simp] theorem lookup_nil (path : List String) : lookup ([] : List (Value σ)) path = none := rfl

theorem lookup_cons (layer : Value σ) (layers : List (Value σ)) (path : List String) :
    lookup (layer :: layers) path = (layer.walk? path).or (lookup layers path) := by
  rw [lookup, List.findSome?_cons, lookup]
  cases layer.walk? path <;> rfl

theorem lookup_append (layers more : List (Value σ)) (path : List String) :
    lookup (layers ++ more) path = (lookup layers path).or (lookup more path) := by
  induction layers with
  | nil => rfl
  | cons layer layers ih => rw [List.cons_append, lookup_cons, lookup_cons, ih, Option.or_assoc]

theorem lookup_append_of_some (found : lookup layers path = some value) (more : List (Value σ)) :
    lookup (layers ++ more) path = some value := by
  rw [lookup_append, found, Option.some_or]

/-- A layer in which a path breaks off may stand anywhere in a stack. -/
theorem lookup_pass (broken : value.walk? path = none) (above below : List (Value σ)) :
    lookup (above ++ value :: below) path = lookup (above ++ below) path := by
  rw [lookup_append, lookup_cons, broken, Option.none_or, lookup_append]

theorem lookup_skip (other : value.isObject = false) (filled : path ≠ []) (above below : List (Value σ)) :
    lookup (above ++ value :: below) path = lookup (above ++ below) path :=
  lookup_pass (Value.walk?_of_not_object other filled) above below

/-! ### Where a path leads in one layer -/

namespace Value

/-- Where a path leads: each value from which it goes on is an object that has the next key. -/
inductive Leads : Value σ → List String → Value σ → Prop where
  | here (value : Value σ) : Leads value [] value
  | onward {entries : List (String × Value σ)} {key : String} {path : List String}
      {next found : Value σ} : entries.lookup key = some next → Leads next path found →
      Leads (.object entries) (key :: path) found

variable {found : Value σ} {key : String}

theorem get?_eq_some_iff {next : Value σ} : value.get? key = some next ↔
    ∃ entries, value = .object entries ∧ entries.lookup key = some next := by
  cases value <;> simp [get?]

theorem leads_nil : Leads value [] found ↔ found = value := by
  constructor
  · rintro ⟨⟩
    rfl
  · rintro rfl
    exact .here found

theorem leads_cons : Leads value (key :: path) found ↔
    ∃ next, value.get? key = some next ∧ Leads next path found := by
  constructor
  · rintro (_ | ⟨step, later⟩)
    exact ⟨_, get?_eq_some_iff.2 ⟨_, rfl, step⟩, later⟩
  · rintro ⟨next, step, later⟩
    obtain ⟨entries, rfl, step⟩ := get?_eq_some_iff.1 step
    exact .onward step later

theorem walk?_eq_some_iff : value.walk? path = some found ↔ value.Leads path found := by
  induction path generalizing value with
  | nil =>
    rw [walk?, leads_nil, Option.some.injEq]
    exact eq_comm
  | cons key path ih =>
    simp only [walk?, leads_cons, Option.bind_eq_some_iff, ih]

theorem walk?_eq_none_iff : value.walk? path = none ↔ ¬∃ found, value.Leads path found := by
  simp only [← walk?_eq_some_iff, ← Option.isSome_iff_exists, Option.not_isSome_iff_eq_none]

theorem walk?_append (path more : List String) (value : Value σ) :
    value.walk? (path ++ more) = (value.walk? path).bind (walk? more) := by
  induction path generalizing value with
  | nil => rfl
  | cons key path ih =>
    rw [List.cons_append, walk?, walk?, Option.bind_assoc]
    exact congrArg _ (funext ih)

theorem leads_append {more : List String} : value.Leads (path ++ more) found ↔
    ∃ middle, value.Leads path middle ∧ middle.Leads more found := by
  simp only [← walk?_eq_some_iff, walk?_append, Option.bind_eq_some_iff]

/-- A path goes no further than to a value without the next key, however far it has come. -/
theorem walk?_of_missing {node : Value σ} (partway : value.Leads path node)
    (missing : node.get? key = none) (more : List String) :
    value.walk? (path ++ key :: more) = none := by
  rw [walk?_append, walk?_eq_some_iff.2 partway, Option.bind_some, walk?, missing, Option.bind_none]

end Value

/-! ### The layer that decides -/

theorem lookup_eq_none_iff :
    lookup layers path = none ↔ ∀ layer ∈ layers, ¬∃ found, layer.Leads path found := by
  simp only [lookup, List.findSome?_eq_none_iff, Value.walk?_eq_none_iff]

theorem lookup_skip_all {above : List (Value σ)}
    (broken : ∀ layer ∈ above, ¬∃ found, layer.Leads path found) (below : List (Value σ)) :
    lookup (above ++ below) path = lookup below path := by
  rw [lookup_append, lookup_eq_none_iff.2 broken, Option.none_or]

theorem lookup_of_leads {layer : Value σ} (leads : layer.Leads path value)
    (below : List (Value σ)) : lookup (layer :: below) path = some value := by
  rw [lookup_cons, Value.walk?_eq_some_iff.2 leads, Option.some_or]

theorem lookup_eq_some_iff : lookup layers path = some value ↔
    ∃ (i : Nat) (layer : Value σ), layers[i]? = some layer ∧ layer.Leads path value ∧
      ∀ j < i, ∀ other, layers[j]? = some other → ¬∃ found, other.Leads path found := by
  constructor
  · intro found
    obtain ⟨above, layer, below, rfl, walked, broken⟩ := List.findSome?_eq_some_iff.1 found
    refine ⟨above.length, layer, by simp, Value.walk?_eq_some_iff.1 walked, ?_⟩
    intro j before other here
    rw [List.getElem?_append_left before] at here
    exact Value.walk?_eq_none_iff.1 (broken other (List.mem_of_getElem? here))
  · rintro ⟨i, layer, here, leads, broken⟩
    obtain ⟨inside, rfl⟩ := List.getElem?_eq_some_iff.1 here
    have split : layers = layers.take i ++ layers[i] :: layers.drop (i + 1) := by
      rw [← List.drop_eq_getElem_cons inside, List.take_append_drop]
    rw [split, lookup_skip_all ?_ _, lookup_of_leads leads]
    intro other above
    obtain ⟨j, before, rfl⟩ := List.mem_take_iff_getElem.1 above
    exact broken j (by omega) _ (by simp)

/-- The value of a path in a stack is what the whole path leads to in the first layer where it leads
to anything; there is none if it leads to nothing in every layer. So a layer in which the path ends,
be it at a null or an object, hides all layers beneath it, and one in which the path breaks off,
however far it has come, might as well not be there. -/
theorem lookup_decides (σ : Type) :
    (∀ (layers : List (Value σ)) (path : List String),
      (∀ value, lookup layers path = some value ↔
        ∃ (i : Nat) (layer : Value σ), layers[i]? = some layer ∧ layer.Leads path value ∧
          ∀ j < i, ∀ other, layers[j]? = some other → ¬∃ found, other.Leads path found) ∧
      (lookup layers path = none ↔ ∀ layer ∈ layers, ¬∃ found, layer.Leads path found)) ∧
    (∀ (above below : List (Value σ)) (layer value : Value σ) (path : List String),
      (∀ other ∈ above, ¬∃ found, other.Leads path found) → layer.Leads path value →
        lookup (above ++ layer :: below) path = some value) ∧
    (∀ (above below : List (Value σ)) (layer node : Value σ) (path : List String) (key : String)
      (more : List String), layer.Leads path node →
        (∀ entries, node = .object entries → entries.lookup key = none) →
          lookup (above ++ layer :: below) (path ++ key :: more) =
            lookup (above ++ below) (path ++ key :: more)) ∧
    (∀ (layers more : List (Value σ)) (path : List String),
      lookup (layers ++ more) path = (lookup layers path).or (lookup more path)) ∧
    ∀ (layer found : Value σ) (path more : List String),
      (layer.walk? path = some found ↔ layer.Leads path found) ∧
        layer.walk? (path ++ more) = (layer.walk? path).bind (Value.walk? more) ∧
        (layer.Leads (path ++ more) found ↔
          ∃ middle, layer.Leads path middle ∧ middle.Leads more found) := by
  refine ⟨fun layers path => ⟨fun value => lookup_eq_some_iff, lookup_eq_none_iff⟩, ?_, ?_,
    lookup_append, fun layer found path more =>
      ⟨Value.walk?_eq_some_iff, layer.walk?_append path more, Value.leads_append⟩⟩
  · intro above below layer value path broken leads
    rw [lookup_skip_all broken, lookup_of_leads leads]
  · intro above below layer node path key more partway missing
    have absent : node.get? key = none := by
      cases node with
      | object entries => exact missing entries rfl
      | _ => rfl
    exact lookup_pass (Value.walk?_of_missing partway absent more) above below

-- The path breaks off at a null, then at its last key, and ends at a null that hides the last layer.
theorem lookup_decides_null :
    let first : Value Unit := .object [("a", .null)]
    let second : Value Unit := .object [("a", .object [("c", .string "x")])]
    let third : Value Unit := .object [("a", .object [("b", .null)])]
    let fourth : Value Unit := .object [("a", .object [("b", .string "hidden")])]
    (∀ other ∈ [first, second], ¬∃ found, other.Leads ["a", "b"] found) ∧
      third.Leads ["a", "b"] .null ∧
      lookup [first, second, third, fourth] ["a", "b"] = some .null := by
  intro first second third fourth
  have broken : ∀ other ∈ [first, second], ¬∃ found, other.Leads ["a", "b"] found := by
    intro other found
    apply Value.walk?_eq_none_iff.1
    simp only [List.mem_cons, List.not_mem_nil, or_false] at found
    rcases found with rfl | rfl <;> rfl
  have leads : third.Leads ["a", "b"] .null := .onward rfl (.onward rfl (.here .null))
  obtain ⟨-, decides, -⟩ := lookup_decides Unit
  exact ⟨broken, leads, decides [first, second] [fourth] third .null ["a", "b"] broken leads⟩

end StyleTokens
