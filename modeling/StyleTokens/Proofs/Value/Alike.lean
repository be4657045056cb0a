import Mathlib.Data.List.Forall2
import StyleTokens.Proofs.Value.Lookup
import StyleTokens.Value.Render

/-! Values that differ in the order of the entries of their objects only. No path and no text tells them
apart: a path leads to something in both of them or in neither, and what it leads to has the same
text in both, or none for the same reason. -/

set_option autoImplicit false

namespace StyleTokens

variable {σ : Type}

/-! ### Entries in another order -/

section

variable {α : Type} {entries entries' : List (String × α)}

theorem lookup_perm (order : entries.Perm entries') (once : (entries.map Prod.fst).Nodup)
    (key : String) : entries.lookup key = entries'.lookup key := by
  induction order with
  | nil => rfl
  | cons entry _ ih =>
    rw [List.map_cons, List.nodup_cons] at once
    rw [List.lookup_cons, List.lookup_cons, ih once.2]
  | swap first second later =>
    have apart : second.1 ≠ first.1 := by
      rintro same
      simp [same] at once
    rw [List.lookup_cons, List.lookup_cons, List.lookup_cons, List.lookup_cons]
    by_cases here : key = first.1
    · simp [here, beq_eq_false_iff_ne.2 apart.symm]
    · simp [beq_eq_false_iff_ne.2 here]
  | trans before _ ih ih' =>
    exact (ih once).trans (ih' ((before.map Prod.fst).nodup_iff.1 once))

end

namespace Value

/-! ### Alike values -/

/-- Two values with the same contents, where the entries of an object may stand in any order. Each key
of an object stands in it once. -/
inductive Alike : Value σ → Value σ → Prop where
  | null : Alike .null .null
  | boolean (value : Bool) : Alike (.boolean value) (.boolean value)
  | integer (value : Int64) : Alike (.integer value) (.integer value)
  | bigInteger (value : Int) : Alike (.bigInteger value) (.bigInteger value)
  | string (value : String) : Alike (.string value) (.string value)
  | array {items items' : List (Value σ)} (all : List.Forall₂ Alike items items') :
      Alike (.array items) (.array items')
  | object {entries ordered ordered' entries' : List (String × Value σ)}
      (once : (entries.map Prod.fst).Nodup) (order : entries.Perm ordered)
      (keys : ordered.map Prod.fst = ordered'.map Prod.fst)
      (all : List.Forall₂ Alike (ordered.map Prod.snd) (ordered'.map Prod.snd))
      (order' : ordered'.Perm entries') : Alike (.object entries) (.object entries')
  | function (call : List String → σ → Except CallError (Value σ) × σ) :
      Alike (.function call) (.function call)

variable {value value' : Value σ}

theorem alike_lookup {entries entries' : List (String × Value σ)}
    (keys : entries.map Prod.fst = entries'.map Prod.fst)
    (all : List.Forall₂ Alike (entries.map Prod.snd) (entries'.map Prod.snd)) (key : String) :
    Option.Rel Alike (entries.lookup key) (entries'.lookup key) := by
  induction entries generalizing entries' with
  | nil =>
    obtain rfl := List.map_eq_nil_iff.1 keys.symm
    exact .none
  | cons entry entries ih =>
    obtain ⟨entry', entries', rfl, same, keys⟩ := List.map_eq_cons_iff.1 keys.symm
    obtain ⟨first, later⟩ := List.forall₂_cons.1 all
    rw [List.lookup_cons, List.lookup_cons, same]
    split
    · exact .some first
    · exact ih keys.symm later

namespace Alike

theorem get? (alike : Alike value value') (key : String) :
    Option.Rel Alike (value.get? key) (value'.get? key) := by
  cases alike with
  | @object entries ordered ordered' entries' once order keys all order' =>
    have once' : (ordered'.map Prod.fst).Nodup := keys ▸ (order.map Prod.fst).nodup_iff.1 once
    rw [Value.get?, Value.get?, lookup_perm order once, ← lookup_perm order' once']
    exact alike_lookup keys all key
  | _ => exact .none

theorem walk? (alike : Alike value value') (path : List String) :
    Option.Rel Alike (value.walk? path) (value'.walk? path) := by
  induction path generalizing value value' with
  | nil => exact .some alike
  | cons key path ih =>
    rw [Value.walk?, Value.walk?]
    have step := alike.get? key
    generalize value.get? key = next, value'.get? key = next' at step
    cases step with
    | none => exact .none
    | some alike => exact ih alike

mutual

theorem text? {value value' : Value σ} : Alike value value' → value.text? = value'.text?
  | .null | .boolean _ | .integer _ | .bigInteger _ | .string _ | .object .. | .function _ => rfl
  | .array all => by rw [Value.text?, Value.text?, texts all]

theorem texts {items items' : List (Value σ)} :
    List.Forall₂ Alike items items' → Value.texts items = Value.texts items'
  | .nil => rfl
  | .cons first later => by rw [Value.texts, Value.texts, first.text?, texts later]

end

theorem render (alike : Alike value value') (args : List String) (host : σ) :
    value.render args host = value'.render args host := by
  cases alike with
  | array all => exact congrArg (·, host) (Alike.array all).text?
  | _ => rfl

end Alike
end Value

/-- Stacks with alike layers, from the top down, answer every path alike. -/
theorem lookup_alike {layers layers' : List (Value σ)}
    (alike : List.Forall₂ Value.Alike layers layers') (path : List String) :
    Option.Rel Value.Alike (lookup layers path) (lookup layers' path) := by
  induction alike with
  | nil => exact .none
  | @cons layer layer' layers layers' first _ ih =>
    rw [lookup_cons, lookup_cons]
    have step := first.walk? path
    generalize layer.walk? path = found, layer'.walk? path = found' at step
    cases step with
    | none => exact ih
    | some alike => exact .some alike

end StyleTokens
