import StyleTokens.Proofs.Substitution.Calls

/-! What the text of a value is, and why it may have none. The text of a list is that of all it holds,
read from left to right as if it were one list without lists in it. An object or a callable among
what it holds takes that text away, and the first one is the reason given. A callable that is not in a
list is called once, and what it gives back is rendered in its place. -/

set_option autoImplicit false

namespace StyleTokens

variable {σ : Type}

namespace Value

/-! ### What a value holds -/

mutual

/-- The value itself, then all that it holds through lists, from left to right. -/
def elements : Value σ → List (Value σ)
  | .array items => .array items :: elementsOf items
  | value => [value]

def elementsOf : List (Value σ) → List (Value σ)
  | [] => []
  | item :: items => item.elements ++ elementsOf items

end

mutual

/-- The texts that a value brings into a list. A null brings an empty one, and so does an empty list.
An object or a callable, which no list shows, counts like a null. -/
def leaves : Value σ → List String
  | .null => [""]
  | .boolean value => [if value then "true" else "false"]
  | .integer value => [toString value.toInt]
  | .bigInteger value => [toString value]
  | .string value => [value]
  | .array [] => [""]
  | .array (first :: others) => first.leaves ++ leavesOf others
  | .object _ => [""]
  | .function _ => [""]

def leavesOf : List (Value σ) → List String
  | [] => []
  | item :: items => item.leaves ++ leavesOf items

end

/-- Whether a value has no text by its type. -/
def isRefused : Value σ → Bool
  | .object _ => true
  | .function _ => true
  | _ => false

def joined (value : Value σ) : String := String.intercalate "," value.leaves

/-- The text of a value that holds nothing without one. -/
def flatText? : Value σ → Option String
  | .null => none
  | value => some value.joined

theorem elementsOf_append (items more : List (Value σ)) :
    elementsOf (items ++ more) = elementsOf items ++ elementsOf more := by
  induction items with
  | nil => rfl
  | cons item items ih => rw [List.cons_append, elementsOf, elementsOf, ih, List.append_assoc]

theorem leavesOf_append (items more : List (Value σ)) :
    leavesOf (items ++ more) = leavesOf items ++ leavesOf more := by
  induction items with
  | nil => rfl
  | cons item items ih => rw [List.cons_append, leavesOf, leavesOf, ih, List.append_assoc]

theorem find?_elements_array (items : List (Value σ)) :
    (Value.array items).elements.find? isRefused = (elementsOf items).find? isRefused := by
  rw [elements, List.find?_cons_of_neg (by simp [isRefused])]

theorem leaves_array {items : List (Value σ)} (filled : items ≠ []) :
    (Value.array items).leaves = leavesOf items := by
  cases items with
  | nil => exact absurd rfl filled
  | cons first others => rw [leaves, leavesOf]

theorem leaves_ne_nil : (value : Value σ) → value.leaves ≠ []
  | .array (first :: others) => by
    rw [leaves]
    exact List.append_ne_nil_of_left_ne_nil (leaves_ne_nil first) _
  | .null | .boolean _ | .integer _ | .bigInteger _ | .string _ | .array [] | .object _
  | .function _ => List.cons_ne_nil _ _

theorem leavesOf_ne_nil {items : List (Value σ)} (filled : items ≠ []) : leavesOf items ≠ [] := by
  rw [← leaves_array filled]
  exact leaves_ne_nil _

/-! ### Texts of lists -/

-- Joins of joins are one join, since no item is without a leaf.
theorem intercalate_joined (items : List (Value σ)) :
    String.intercalate "," (items.map joined) = String.intercalate "," (leavesOf items) := by
  induction items with
  | nil => rfl
  | cons item items ih =>
    rw [List.map_cons, leavesOf]
    by_cases last : items = []
    · subst last
      simp [joined, leavesOf]
    · rw [String.intercalate_cons_of_ne_nil (by simpa using last), ih, joined,
        String.intercalate_append_of_ne_nil (leaves_ne_nil item) (leavesOf_ne_nil last)]

theorem joined_array (items : List (Value σ)) :
    (Value.array items).joined = String.intercalate "," (items.map joined) := by
  rw [intercalate_joined, joined]
  cases items <;> simp [leaves, leavesOf]

-- A list fails at its first item without a text, and that item at the first such element in it, so
-- the search through all elements finds what the rendering stops at.
mutual

theorem text?_cases : (value : Value σ) →
    (∃ element, value.elements.find? isRefused = some element ∧
        value.text? = .error (.unsupported element.typeName)) ∨
      value.elements.find? isRefused = none ∧ value.text? = .ok value.flatText?
  | .array items => by
    have flat : (Value.array items).flatText? = some (String.intercalate "," (items.map joined)) :=
      congrArg some (joined_array items)
    rw [find?_elements_array, text?, flat]
    rcases texts_cases items with ⟨element, found, failed⟩ | ⟨none, texts⟩
    · exact .inl ⟨element, found, by rw [failed]; rfl⟩
    · exact .inr ⟨none, by rw [texts]; rfl⟩
  | .object _ | .function _ => .inl ⟨_, rfl, rfl⟩
  | .null => .inr ⟨rfl, rfl⟩
  | .boolean _ | .integer _ | .bigInteger _ | .string _ => .inr ⟨rfl, by
    simp [text?, flatText?, joined, leaves]⟩

theorem texts_cases : (items : List (Value σ)) →
    (∃ element, (elementsOf items).find? isRefused = some element ∧
        texts items = .error (.unsupported element.typeName)) ∨
      (elementsOf items).find? isRefused = none ∧ texts items = .ok (items.map joined)
  | [] => .inr ⟨rfl, rfl⟩
  | item :: items => by
    rw [elementsOf, List.find?_append, texts, List.map_cons]
    rcases text?_cases item with ⟨element, found, failed⟩ | ⟨none, text⟩
    · exact .inl ⟨element, by rw [found]; rfl, by rw [failed]⟩
    · have shown : item.flatText?.getD "" = item.joined := by
        cases item <;> simp [flatText?, joined, leaves]
      rw [none, text, Option.none_or]
      dsimp only
      rw [shown]
      rcases texts_cases items with ⟨element, found, failed⟩ | ⟨none, texts⟩
      · exact .inl ⟨element, found, by rw [failed]; rfl⟩
      · exact .inr ⟨none, by rw [texts]; rfl⟩

end

theorem text?_eq (value : Value σ) :
    value.text? = match value.elements.find? isRefused with
      | some element => .error (.unsupported element.typeName)
      | none => .ok value.flatText? := by
  rcases text?_cases value with ⟨element, found, failed⟩ | ⟨none, text⟩
  · rw [found, failed]
  · rw [none, text]

theorem text?_of_none {value : Value σ} (none : value.elements.find? isRefused = none) :
    value.text? = .ok value.flatText? := by
  rw [text?_eq, none]

theorem render_of_kind {value : Value σ} (other : value.kind ≠ .invocable) (args : List String)
    (host : σ) : value.render args host = (value.text?, host) := by
  cases value with
  | function call => exact absurd rfl other
  | _ => rfl

/-! ### Lists that differ in one place -/

/-- Two values that differ in one place of a list, at any depth: where the one holds the items `old`,
the other holds `new`. -/
inductive Edited (old new : List (Value σ)) : Value σ → Value σ → Prop where
  | here (before after : List (Value σ)) :
      Edited old new (.array (before ++ old ++ after)) (.array (before ++ new ++ after))
  | within (before after : List (Value σ)) {item item' : Value σ} : Edited old new item item' →
      Edited old new (.array (before ++ item :: after)) (.array (before ++ item' :: after))

namespace Edited

variable {old new : List (Value σ)} {value value' : Value σ}

theorem leaves (edited : Edited old new value value') (filled : old ≠ []) (filled' : new ≠ [])
    (same : leavesOf old = leavesOf new) : value.leaves = value'.leaves := by
  induction edited with
  | here before after =>
    rw [leaves_array (by simp [filled]), leaves_array (by simp [filled'])]
    simp only [leavesOf_append, same]
  | within before after _ ih =>
    rw [leaves_array (by simp), leaves_array (by simp)]
    simp only [leavesOf_append, leavesOf, ih]

theorem refused (edited : Edited old new value value')
    (same : (elementsOf old).find? isRefused = (elementsOf new).find? isRefused) :
    value.elements.find? isRefused = value'.elements.find? isRefused := by
  induction edited with
  | here before after =>
    simp only [find?_elements_array, elementsOf_append, List.find?_append, same]
  | within before after _ ih =>
    simp only [find?_elements_array, elementsOf_append, elementsOf, List.find?_append, ih]

/-- Both render alike if they bring the same leaves, and the same first element without a text, if any. -/
theorem render (edited : Edited old new value value') (leaves : value.leaves = value'.leaves)
    (refused : value.elements.find? isRefused = value'.elements.find? isRefused)
    (args : List String) (host : σ) : value.render args host = value'.render args host := by
  have joined : value.joined = value'.joined := congrArg (String.intercalate ",") leaves
  have flat : value.flatText? = value'.flatText? := by
    cases edited <;> exact congrArg some joined
  have text : value.text? = value'.text? := by rw [text?_eq, text?_eq, refused, flat]
  cases edited <;> exact congrArg (·, host) text

end Edited
end Value

/-- A list that holds no object and no callable, at any depth, has a text: its leaves joined by commas.
So a token that stands for it is never dropped, and keeps its suffix. At any depth a list may be replaced
by its items, if it has any, and a null or an empty list by an empty text, without a change to what is
rendered. -/
theorem render_flattens (σ : Type) :
    (∀ items : List (Value σ),
      (∀ element ∈ (Value.array items).elements, element.isRefused = false) →
        let text := String.intercalate "," (Value.array items).leaves
        (∀ args host, (Value.array items).render args host = (.ok (some text), host)) ∧
          ∀ layers token host, lookup layers token.path = some (.array items) →
            replacement layers token host = (.ok (text.toList ++ token.suffix.toList), host)) ∧
    (∀ (first : Value σ) (others : List (Value σ)) (value value' : Value σ),
      Value.Edited [.array (first :: others)] (first :: others) value value' →
        value.leaves = value'.leaves ∧
          ∀ args host, value.render args host = value'.render args host) ∧
    ∀ empty ∈ [Value.null, Value.array []], ∀ value value' : Value σ,
      Value.Edited [empty] [.string ""] value value' →
        value.leaves = value'.leaves ∧
          ∀ args host, value.render args host = value'.render args host := by
  refine ⟨?_, ?_, ?_⟩
  · intro items plain text
    have rendered : ∀ args host, (Value.array items).render args host = (.ok (some text), host) := by
      intro args host
      have none : (Value.array items).elements.find? Value.isRefused = none := by
        simpa using plain
      exact congrArg (·, host) (Value.text?_of_none none)
    refine ⟨rendered, ?_⟩
    intro layers token host found
    simp only [replacement, found, rendered]
  · intro first others value value' edited
    have leaves := edited.leaves (by simp) (by simp) (by simp [Value.leavesOf, Value.leaves])
    have refused := edited.refused (by simp [Value.elementsOf, Value.find?_elements_array])
    exact ⟨leaves, edited.render leaves refused⟩
  · intro empty either value value' edited
    simp only [List.mem_cons, List.not_mem_nil, or_false] at either
    have same : Value.leavesOf [empty] = Value.leavesOf [(.string "" : Value σ)] := by
      rcases either with rfl | rfl <;> rfl
    have none : (Value.elementsOf [empty]).find? Value.isRefused = none := by
      rcases either with rfl | rfl <;> rfl
    have leaves := edited.leaves (by simp) (by simp) same
    exact ⟨leaves, edited.render leaves (edited.refused none)⟩

theorem render_flattens_nested :
    let nested : List (Value Unit) :=
      [.null, .array [.array [], .integer (-3)], .array [.null, .array [.string "x,"]], .boolean true]
    let token : Token := ⟨0, 3, "$l ", some ' ', ["l"], []⟩
    (∀ element ∈ (Value.array nested).elements, element.isRefused = false) ∧
      lookup [.object [("l", .array nested)]] token.path = some (.array nested) ∧
      replacement [.object [("l", .array nested)]] token () = (.ok ",,-3,,x,,true ".toList, ()) := by
  intro nested token
  have plain : ∀ element ∈ (Value.array nested).elements, element.isRefused = false :=
    List.forall_mem_iff_forall_getElem.2 (by decide)
  obtain ⟨flat, -⟩ := render_flattens Unit
  refine ⟨plain, rfl, ((flat nested plain).2 _ token () rfl).trans ?_⟩
  decide +kernel

/-! ### Values without a text -/

namespace Value

theorem typeName_of_isRefused {value : Value σ} (refused : value.isRefused = true) :
    value.typeName = "object" ∨ value.typeName = "function" := by
  cases value <;> simp [isRefused, typeName] at refused ⊢

theorem text?_eq_error_iff {value : Value σ} {error : RenderError} :
    value.text? = .error error ↔ ∃ before element after,
      value.elements = before ++ element :: after ∧ element.isRefused = true ∧
        (∀ other ∈ before, other.isRefused = false) ∧ error = .unsupported element.typeName := by
  rw [text?_eq]
  constructor
  · intro failed
    split at failed
    · next element found =>
      cases failed
      obtain ⟨refused, before, after, whole, none⟩ := List.find?_eq_some_iff_append.1 found
      exact ⟨before, element, after, whole, refused, by simpa using none, rfl⟩
    · cases failed
  · rintro ⟨before, element, after, whole, refused, none, rfl⟩
    have found : value.elements.find? isRefused = some element :=
      List.find?_eq_some_iff_append.2 ⟨refused, before, after, whole, by simpa using none⟩
    rw [found]

theorem text?_fails_iff {value : Value σ} :
    (∃ error, value.text? = .error error) ↔ ∃ element ∈ value.elements, element.isRefused = true := by
  rw [← List.find?_isSome, text?_eq]
  cases value.elements.find? isRefused <;> simp

theorem text?_eq_ok_none_iff {value : Value σ} : value.text? = .ok none ↔ value = .null := by
  constructor
  · intro text
    rcases text?_cases value with ⟨element, -, failed⟩ | ⟨-, flat⟩
    · rw [failed] at text
      cases text
    · rw [flat] at text
      cases value with
      | null => rfl
      | _ => cases text
  · rintro rfl
    rfl

section

variable {call : List String → σ → Except CallError (Value σ) × σ} {args : List String}
  {host host' : σ}

theorem render_of_failed {cause : CallError} (called : call args host = (.error cause, host')) :
    (Value.function call).render args host = (.error (.call cause), host') := by
  rw [render, called]

theorem render_of_nested {inner : List String → σ → Except CallError (Value σ) × σ}
    (called : call args host = (.ok (.function inner), host')) :
    (Value.function call).render args host = (.error .nestedFunction, host') := by
  rw [render, called]

theorem render_of_given {value : Value σ} (called : call args host = (.ok value, host'))
    (other : value.kind ≠ .invocable) :
    (Value.function call).render args host = (value.text?, host') := by
  rw [render, called]
  cases value with
  | function inner => exact absurd rfl other
  | _ => rfl

end

end Value

/-- A value that is no callable renders the same whatever the arguments. It has no text exactly if it is,
or holds through lists, an object or a callable, and the first of these from left to right is the reason;
it renders as nothing only if it is null. A callable is called once. If it fails or gives back a callable,
that is the outcome; otherwise what it gives back is rendered in its place, and nothing else is called. -/
theorem render_refuses (σ : Type) :
    (∀ value : Value σ, value.kind ≠ .invocable → ∀ args host,
      (∀ args' host', value.render args' host' = ((value.render args host).1, host')) ∧
      (∀ log, value.observed.render args (host, log) = ((value.render args host).1, host, log)) ∧
      ((∃ error, (value.render args host).1 = .error error) ↔
        ∃ element ∈ value.elements, element.isRefused = true) ∧
      (∀ error, (value.render args host).1 = .error error ↔ ∃ before element after,
        value.elements = before ++ element :: after ∧ element.isRefused = true ∧
          (∀ other ∈ before, other.isRefused = false) ∧ error = .unsupported element.typeName) ∧
      ((value.render args host).1 = .ok none ↔ value = .null)) ∧
    (∀ element : Value σ, element.isRefused = true →
      element.typeName = "object" ∨ element.typeName = "function") ∧
    ∀ (call : List String → σ → Except CallError (Value σ) × σ) (args : List String) (host : σ),
      let answer := call args host
      let outcome := (Value.function call).render args host
      (∀ cause, answer.1 = .error cause → outcome = (.error (.call cause), answer.2)) ∧
        (∀ inner, answer.1 = .ok (.function inner) → outcome = (.error .nestedFunction, answer.2)) ∧
        (∀ value, answer.1 = .ok value → value.kind ≠ .invocable →
          ∀ args', outcome = value.render args' answer.2) ∧
        ∀ log, (Value.function call).observed.render args (host, log) =
          (outcome.1, outcome.2, log ++ [⟨call, args⟩]) := by
  refine ⟨?_, fun element => Value.typeName_of_isRefused, ?_⟩
  · intro value other args host
    simp only [Value.render_of_kind other]
    refine ⟨fun _ _ => trivial, ?_, Value.text?_fails_iff, fun _ => Value.text?_eq_error_iff,
      Value.text?_eq_ok_none_iff⟩
    intro log
    rw [Value.render_observed, Value.render_of_kind other]
    cases value with
    | function call => exact absurd rfl other
    | _ => simp [Value.call?]
  · intro call args host answer outcome
    refine ⟨?_, ?_, ?_, ?_⟩
    · intro cause failed
      exact Value.render_of_failed (Prod.ext failed rfl)
    · intro inner gave
      exact Value.render_of_nested (Prod.ext gave rfl)
    · intro value gave other args'
      rw [Value.render_of_kind other]
      exact Value.render_of_given (Prod.ext gave rfl) other
    · intro log
      apply Value.render_observed

-- The callable in the list comes before the object beside it, and after the list that it stands in.
theorem render_refuses_callable :
    let inner : Value Nat := .function fun _ host => (.ok .null, host + 1)
    let mixed : Value Nat := .array [.null, .array [.string "a", inner, .object []], .object []]
    let giving : List String → Nat → Except CallError (Value Nat) × Nat :=
      fun _ host => (.ok mixed, host + 1)
    mixed.kind ≠ .invocable ∧ (mixed.render ["1"] 0).1 = .error (.unsupported "function") ∧
      (giving ["1"] 0).1 = .ok mixed ∧
      (Value.function giving).render ["1"] 0 = (.error (.unsupported "function"), 1) ∧
      (Value.function giving).observed.render ["1"] (0, []) =
        (.error (.unsupported "function"), 1, [⟨giving, ["1"]⟩]) := by
  intro inner mixed giving
  obtain ⟨plain, -, calls⟩ := render_refuses Nat
  have other : mixed.kind ≠ .invocable := by decide
  obtain ⟨-, -, -, failed, -⟩ := plain mixed other ["1"] 0
  have refused : (mixed.render ["1"] 0).1 = .error (.unsupported "function") :=
    (failed _).2 ⟨[mixed, .null, .array [.string "a", inner, .object []], .string "a"], inner,
      [.object [], .object []], rfl, rfl, by simp [mixed, Value.isRefused], rfl⟩
  obtain ⟨-, -, given, observed⟩ := calls giving ["1"] 0
  have outcome : (Value.function giving).render ["1"] 0 = (.error (.unsupported "function"), 1) :=
    (given mixed rfl other []).trans (Prod.ext refused rfl)
  refine ⟨other, refused, rfl, outcome, ?_⟩
  rw [observed, outcome]
  rfl

end StyleTokens
