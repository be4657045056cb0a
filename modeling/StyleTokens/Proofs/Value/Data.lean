import StyleTokens.Layers.Load
import StyleTokens.Proofs.Value.Entries
import StyleTokens.Proofs.Value.Lookup
import StyleTokens.Value.Render

/-! Values that are data and nothing else. What is read from a file is such a value, whatever the
format, and so is all that a path leads to in it. Rendering one calls nothing and fails only for an
object, which may stand in lists. -/

set_option autoImplicit false

namespace StyleTokens

variable {σ : Type}

namespace Value

mutual

/-- Whether a value holds no callable, at any depth. -/
def isData : Value σ → Bool
  | .array items => itemsAreData items
  | .object entries => entriesAreData entries
  | .function _ => false
  | _ => true

def itemsAreData : List (Value σ) → Bool
  | [] => true
  | item :: items => item.isData && itemsAreData items

def entriesAreData : List (String × Value σ) → Bool
  | [] => true
  | (_, value) :: entries => value.isData && entriesAreData entries

end

mutual

/-- Whether a value is an object or has one in it through lists alone. -/
def holdsObject : Value σ → Bool
  | .array items => itemsHoldObject items
  | .object _ => true
  | _ => false

def itemsHoldObject : List (Value σ) → Bool
  | [] => false
  | item :: items => item.holdsObject || itemsHoldObject items

end

theorem entriesAreData_iff {entries : List (String × Value σ)} :
    entriesAreData entries ↔ ∀ entry ∈ entries, entry.2.isData := by
  induction entries with
  | nil => simp [entriesAreData]
  | cons entry entries ih => simp [entriesAreData, ih]

/-! ### Values of files -/

theorem isData_ofEntries {entries : List (String × Value σ)} (all : entriesAreData entries) :
    (ofEntries entries).isData := by
  apply entriesAreData_iff.2
  exact fun entry kept =>
    entriesAreData_iff.1 all entry ((collapses_distinctEntries entries).subset kept)

theorem isData_ofNumber (layout : Decimal.Layout) (number : Number) :
    (number.toValue layout : Value σ).isData := by
  rw [Number.toValue]
  unfold ofReadings
  split
  · rfl
  · rw [ofUInt64]
    split <;> rfl
  · rfl

end Value

namespace Json

mutual

theorem Node.isData_toValue : (node : Node) → (node.toValue : Value σ).isData
  | .null | .boolean _ | .string _ => rfl
  | .number number => Value.isData_ofNumber numberLayout number
  | .array items => areData_toValues items
  | .object entries => Value.isData_ofEntries (areData_toEntries entries)

theorem areData_toValues : (items : List Node) → Value.itemsAreData (toValues items : List (Value σ))
  | [] => rfl
  | item :: items => Bool.and_eq_true_iff.2 ⟨item.isData_toValue, areData_toValues items⟩

theorem areData_toEntries : (entries : List (String × Node)) →
    Value.entriesAreData (toEntries entries : List (String × Value σ))
  | [] => rfl
  | (_, item) :: entries => Bool.and_eq_true_iff.2 ⟨item.isData_toValue, areData_toEntries entries⟩

end

end Json

namespace Yaml

mutual

theorem Node.isData_toValue : (node : Node) → (node.toValue : Value σ).isData
  | .null | .boolean _ | .string _ => rfl
  | .number number => Value.isData_ofNumber numberLayout number
  | .sequence items => areData_toValues items
  | .mapping entries => Value.isData_ofEntries (areData_toEntries entries)
  | .tagged _ node => node.isData_toValue

theorem areData_toValues : (items : List Node) → Value.itemsAreData (toValues items : List (Value σ))
  | [] => rfl
  | item :: items => Bool.and_eq_true_iff.2 ⟨item.isData_toValue, areData_toValues items⟩

theorem areData_toEntries : (entries : List (Node × Node)) →
    Value.entriesAreData (toEntries entries : List (String × Value σ))
  | [] => rfl
  | (_, item) :: entries => Bool.and_eq_true_iff.2 ⟨item.isData_toValue, areData_toEntries entries⟩

end

end Yaml

namespace Hcl

mutual

theorem Node.isData_toValue : (node : Node) → (node.toValue : Value σ).isData
  | .null | .boolean _ | .string _ => rfl
  | .number number => Value.isData_ofNumber numberLayout number
  | .array items => areData_toValues items
  | .object entries => Value.isData_ofEntries (areData_toEntries entries)

theorem areData_toValues : (items : List Node) → Value.itemsAreData (toValues items : List (Value σ))
  | [] => rfl
  | item :: items => Bool.and_eq_true_iff.2 ⟨item.isData_toValue, areData_toValues items⟩

theorem areData_toEntries : (entries : List (String × Node)) →
    Value.entriesAreData (toEntries entries : List (String × Value σ))
  | [] => rfl
  | (_, item) :: entries => Bool.and_eq_true_iff.2 ⟨item.isData_toValue, areData_toEntries entries⟩

end

end Hcl

theorem Format.isData_parse {format : Format} {contents : String} {value : Value σ}
    (parsed : format.parse contents = .ok value) : value.isData := by
  have read : format.read? contents = some value := by
    rw [parse, parseBy, Format.read] at parsed
    cases found : format.read? contents with
    | none =>
      rw [found] at parsed
      cases parsed
    | some value' =>
      rw [found] at parsed
      cases parsed
      rfl
  cases format with
  | json =>
    obtain ⟨node, -, rfl⟩ := Option.map_eq_some_iff.1 read
    exact node.isData_toValue
  | yaml =>
    obtain ⟨node, -, rfl⟩ := Option.map_eq_some_iff.1 read
    exact node.isData_toValue
  | hcl =>
    obtain ⟨node, -, rfl⟩ := Option.map_eq_some_iff.1 read
    exact node.isData_toValue

/-! ### Paths into data -/

namespace Value

variable {value found : Value σ}

theorem isData_get? {key : String} (data : value.isData) (leads : value.get? key = some found) :
    found.isData := by
  cases value with
  | object entries =>
    obtain ⟨before, after, rfl, -⟩ := List.lookup_eq_some_iff.1 leads
    exact entriesAreData_iff.1 data (key, found) (by simp)
  | _ => cases leads

theorem isData_walk? {path : List String} (data : value.isData)
    (leads : value.walk? path = some found) : found.isData := by
  induction path generalizing value with
  | nil =>
    cases leads
    exact data
  | cons key path ih =>
    obtain ⟨next, step, leads⟩ := Option.bind_eq_some_iff.1 leads
    exact ih (isData_get? data step) leads

/-! ### Rendering data -/

mutual

theorem text?_of_isData : (value : Value σ) → value.isData →
    (value.holdsObject = true ∧ value.text? = .error (.unsupported "object")) ∨
      (value.holdsObject = false ∧ ∃ text, value.text? = .ok text)
  | .null, _ | .boolean _, _ | .integer _, _ | .bigInteger _, _ | .string _, _ => .inr ⟨rfl, _, rfl⟩
  | .object _, _ => .inl ⟨rfl, rfl⟩
  | .function _, data => by cases data
  | .array items, data => by
    rw [text?]
    rcases texts_of_areData items data with ⟨holds, failed⟩ | ⟨none, parts, joined⟩
    · exact .inl ⟨holds, by rw [failed]; rfl⟩
    · exact .inr ⟨none, _, by rw [joined]; rfl⟩

theorem texts_of_areData : (items : List (Value σ)) → itemsAreData items →
    (itemsHoldObject items = true ∧ texts items = .error (.unsupported "object")) ∨
      (itemsHoldObject items = false ∧ ∃ parts, texts items = .ok parts)
  | [], _ => .inr ⟨rfl, [], rfl⟩
  | item :: items, data => by
    obtain ⟨first, later⟩ := Bool.and_eq_true_iff.1 data
    rw [itemsHoldObject, texts]
    rcases text?_of_isData item first with ⟨holds, failed⟩ | ⟨none, text, found⟩
    · exact .inl ⟨by rw [holds, Bool.true_or], by rw [failed]⟩
    · rw [none, found, Bool.false_or]
      rcases texts_of_areData items later with ⟨holds, failed⟩ | ⟨none, parts, joined⟩
      · exact .inl ⟨holds, by rw [failed]; rfl⟩
      · exact .inr ⟨none, _, by rw [joined]; rfl⟩

end

theorem render_of_isData (data : value.isData) (args : List String) (host : σ) :
    value.render args host = (value.text?, host) := by
  cases value with
  | function call => cases data
  | _ => rfl

end Value

theorem isData_lookup {layers : List (Value σ)} {path : List String} {value : Value σ}
    (data : ∀ layer ∈ layers, layer.isData) (found : lookup layers path = some value) :
    value.isData := by
  obtain ⟨layer, inside, leads⟩ := List.exists_of_findSome?_eq_some found
  exact Value.isData_walk? (data layer inside) leads

end StyleTokens
