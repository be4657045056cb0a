import StyleTokens.Layers.Load
import StyleTokens.Substitution

/-! Stores of layers over time. Whatever was asked of a store, values and sources are in step, and the
layers are those of the operations that went through, in the order in which they were made. An
operation that fails leaves no trace. -/

set_option autoImplicit false

namespace StyleTokens

variable {σ : Type}

/-! ### Loading a file -/

/-- What a file has to offer to a store. -/
def Files.layer? (reader : MapReader σ) (files : Files) (path : String) : Option (Layer σ) :=
  (Layers.readFile reader files path).toOption.map fun (source, value) => ⟨some source, value⟩

/-- A file is loaded as a whole, or the store stays as it is. -/
theorem Layers.loadFile_cases (reader : MapReader σ) (store : Layers σ) (files : Files)
    (path : String) :
    (∃ layer, files.layer? reader path = some layer ∧
        (loadFile reader files path).run store = (.ok (), store.insert layer.value layer.source)) ∨
      files.layer? reader path = none ∧
        ∃ error, (loadFile reader files path).run store = (.error error, store) := by
  rw [Files.layer?, loadFile]
  cases readFile reader files path with
  | ok found => exact .inl ⟨_, rfl, rfl⟩
  | error error => exact .inr ⟨rfl, error, rfl⟩

/-! ### Histories -/

/-- What can be asked of a store. A file is loaded from the files as they are by then, and read by any
readers of the formats. -/
inductive Operation (σ : Type) where
  | insert (value : Value σ) (source : Option String)
  | load (reader : MapReader σ) (files : Files) (path : String)

namespace Operation

def perform : Operation σ → ExceptT LoadError (StateM (Layers σ)) Unit
  | insert value source => modify fun store => store.insert value source
  | load reader files path => Layers.loadFile reader files path

/-- The layer that an operation adds, if it goes through. -/
def layer? : Operation σ → Option (Layer σ)
  | insert value source => some ⟨source, value⟩
  | load reader files path => files.layer? reader path

theorem perform_cases (store : Layers σ) (operation : Operation σ) :
    (∃ layer, operation.layer? = some layer ∧
        operation.perform.run store = (.ok (), store.insert layer.value layer.source)) ∨
      operation.layer? = none ∧ ∃ error, operation.perform.run store = (.error error, store) := by
  cases operation with
  | insert value source => exact .inl ⟨⟨source, value⟩, rfl, rfl⟩
  | load reader files path => exact Layers.loadFile_cases reader store files path

end Operation

namespace Layers

/-- The store after operations, whether they go through or not. -/
def after (store : Layers σ) (history : List (Operation σ)) : Layers σ :=
  history.foldl (fun store operation => (operation.perform.run store).2) store

theorem after_cons (store : Layers σ) (operation : Operation σ) (history : List (Operation σ)) :
    store.after (operation :: history) = (operation.perform.run store).2.after history := rfl

/-- The sources and the values of a store are those of these layers. -/
structure Holds (store : Layers σ) (added : List (Layer σ)) : Prop where
  sources : store.sources = added.map Layer.source
  values : store.values = added.map Layer.value

variable {store : Layers σ} {added : List (Layer σ)}

theorem holds_empty : (empty : Layers σ).Holds [] := ⟨rfl, rfl⟩

theorem Holds.insert (holds : store.Holds added) (value : Value σ) (source : Option String) :
    (store.insert value source).Holds (added ++ [⟨source, value⟩]) :=
  ⟨by simp [Layers.insert, holds.sources], by simp [Layers.insert, holds.values]⟩

theorem Holds.perform (holds : store.Holds added) (operation : Operation σ) :
    (operation.perform.run store).2.Holds (added ++ operation.layer?.toList) := by
  rcases operation.perform_cases store with ⟨layer, adds, went⟩ | ⟨none, error, failed⟩
  · rw [went, adds]
    exact holds.insert layer.value layer.source
  · rw [failed, none, Option.toList_none, List.append_nil]
    exact holds

theorem Holds.after (holds : store.Holds added) (history : List (Operation σ)) :
    (store.after history).Holds (added ++ history.filterMap Operation.layer?) := by
  induction history generalizing store added with
  | nil => simpa [Layers.after] using holds
  | cons operation history ih =>
    have later := ih (holds.perform operation)
    rw [List.append_assoc] at later
    rw [after_cons, List.filterMap_cons]
    cases adds : operation.layer? <;> simpa [adds] using later

theorem Holds.layers (holds : store.Holds added) : store.layers = added := by
  rw [Layers.layers, holds.sources, holds.values, List.zipWith_map, List.zipWith_self]
  exact List.map_id added

/-- After any operations on a new store or on one made of a value, whether they went through or not,
there are as many sources as values, and the layers are those of the operations that went through, in
their order. So paths are looked up and tokens replaced as in the list of these values. An operation
that fails leaves the store as it was. -/
theorem layers_after (first : Option (Value σ)) (history : List (Operation σ)) :
    let store := (first.elim empty ofValue).after history
    let added := (first.map (Layer.mk none)).toList ++ history.filterMap Operation.layer?
    let values := added.map Layer.value
    store.sources.length = store.values.length ∧ store.layers = added ∧ store.values = values ∧
      store.length = added.length ∧ store.isEmpty = added.isEmpty ∧
      (∀ path, lookup store.values path = lookup values path) ∧
      (∀ (τ : Type) (text : String) (config : Config τ) (host : σ) (state : τ),
        substitute store.values text config host state =
          substitute values text config host state) ∧
      ∀ (store : Layers σ) (operation : Operation σ),
        match operation.layer? with
        | some layer =>
          operation.perform.run store = (.ok (), store.insert layer.value layer.source)
        | none => ∃ error, operation.perform.run store = (.error error, store) := by
  intro store added values
  have start : (first.elim empty ofValue : Layers σ).Holds (first.map (Layer.mk none)).toList := by
    cases first with
    | none => exact holds_empty
    | some value => exact holds_empty.insert value none
  have holds : store.Holds added := start.after history
  refine ⟨?_, holds.layers, holds.values, ?_, ?_, ?_, ?_, ?_⟩
  · rw [holds.sources, holds.values, List.length_map, List.length_map]
  · rw [length, holds.values, List.length_map]
  · rw [isEmpty, holds.values, List.isEmpty_map]
  · intro path
    rw [holds.values]
  · intro τ text config host state
    rw [holds.values]
  · intro store operation
    rcases operation.perform_cases store with ⟨layer, adds, went⟩ | ⟨none, failed⟩
    · rw [adds]
      exact went
    · rw [none]
      exact failed

example :
    let files : Files := ⟨fun path => .ok ("/" ++ path), fun path =>
      if path = "/gone.json" then .error .notFound else .ok "\x7b\x7d"⟩
    let load := Operation.load Format.read files
    let store := (ofValue .null : Layers Nat).after
      [load "a.toml", load "b.json", load "gone.json", .insert .null (some "c")]
    store.layers.map Layer.source = [none, some "/b.json", some "c"] := by
  decide +kernel

end Layers
end StyleTokens
