import StyleTokens.Hcl.Node
import StyleTokens.Json.Node
import StyleTokens.Proofs.Value.Common
import StyleTokens.Yaml.Value

/-! Data in JSON, YAML and HCL documents. In YAML any node but a key may have tags, which do not count.
Whatever the format, a document that holds data has the value of the data, up to the order of the
entries of its maps. -/

set_option autoImplicit false

namespace StyleTokens

variable {σ : Type}

namespace Json

def dialect : Dialect Node where
  null := .null
  boolean := .boolean
  number := .number
  text := .string
  list := .array
  map := .object
  Wraps := Eq
  wraps_refl := fun _ => rfl

theorem toValues_eq_map (items : List Node) :
    (toValues items : List (Value σ)) = items.map Node.toValue := by
  induction items with
  | nil => rfl
  | cons item items ih => rw [toValues, ih, List.map_cons]

theorem toEntries_eq_map (entries : List (String × Node)) :
    (toEntries entries : List (String × Value σ)) = entries.map (Prod.map id Node.toValue) := by
  induction entries with
  | nil => rfl
  | cons entry entries ih =>
    rw [toEntries, ih]
    rfl

theorem toValue_object (entries : List (String × Node)) (once : (entries.map Prod.fst).Nodup) :
    ((Node.object entries).toValue : Value σ) =
      .object (entries.map (Prod.map id Node.toValue)) := by
  rw [Node.toValue, toEntries_eq_map, Value.ofEntries_map Node.toValue once]

def conversion : Conversion σ dialect where
  toValue := Node.toValue
  null := rfl
  boolean := fun _ => rfl
  number := fun whole => Number.toValue_of_whole? whole numberLayout
  text := fun _ => rfl
  list := fun nodes => congrArg Value.array (toValues_eq_map nodes)
  map := toValue_object
  wraps := fun same => congrArg Node.toValue same

end Json

namespace Yaml

/-- What a node is beneath some of its tags. -/
inductive Wraps : Node → Node → Prop where
  | bare (node : Node) : Wraps node node
  | tagged (tag : String) {node inner : Node} (wraps : Wraps node inner) :
      Wraps (.tagged tag node) inner

/-- The keys of a mapping are texts without a tag. -/
def dialect : Dialect Node where
  null := .null
  boolean := .boolean
  number := .number
  text := .string
  list := .sequence
  map := fun entries => .mapping (entries.map (Prod.map .string id))
  Wraps := Wraps
  wraps_refl := .bare

theorem toValues_eq_map (items : List Node) :
    (toValues items : List (Value σ)) = items.map Node.toValue := by
  induction items with
  | nil => rfl
  | cons item items ih => rw [toValues, ih, List.map_cons]

theorem toEntries_map_string (entries : List (String × Node)) :
    (toEntries (entries.map (Prod.map .string id)) : List (String × Value σ)) =
      entries.map (Prod.map id Node.toValue) := by
  induction entries with
  | nil => rfl
  | cons entry entries ih =>
    rw [List.map_cons, Prod.map, toEntries, ih]
    rfl

theorem toValue_mapping (entries : List (String × Node)) (once : (entries.map Prod.fst).Nodup) :
    ((Node.mapping (entries.map (Prod.map .string id))).toValue : Value σ) =
      .object (entries.map (Prod.map id Node.toValue)) := by
  rw [Node.toValue, toEntries_map_string, Value.ofEntries_map Node.toValue once]

theorem toValue_of_wraps {node inner : Node} (wraps : Wraps node inner) :
    (node.toValue : Value σ) = inner.toValue := by
  induction wraps with
  | bare node => rfl
  | tagged tag wraps ih => rw [Node.toValue, ih]

def conversion : Conversion σ dialect where
  toValue := Node.toValue
  null := rfl
  boolean := fun _ => rfl
  number := fun whole => Number.toValue_of_whole? whole numberLayout
  text := fun _ => rfl
  list := fun nodes => congrArg Value.array (toValues_eq_map nodes)
  map := toValue_mapping
  wraps := toValue_of_wraps

end Yaml

namespace Hcl

def dialect : Dialect Node where
  null := .null
  boolean := .boolean
  number := .number
  text := .string
  list := .array
  map := .object
  Wraps := Eq
  wraps_refl := fun _ => rfl

theorem toValues_eq_map (items : List Node) :
    (toValues items : List (Value σ)) = items.map Node.toValue := by
  induction items with
  | nil => rfl
  | cons item items ih => rw [toValues, ih, List.map_cons]

theorem toEntries_eq_map (entries : List (String × Node)) :
    (toEntries entries : List (String × Value σ)) = entries.map (Prod.map id Node.toValue) := by
  induction entries with
  | nil => rfl
  | cons entry entries ih =>
    rw [toEntries, ih]
    rfl

theorem toValue_object (entries : List (String × Node)) (once : (entries.map Prod.fst).Nodup) :
    ((Node.object entries).toValue : Value σ) =
      .object (entries.map (Prod.map id Node.toValue)) := by
  rw [Node.toValue, toEntries_eq_map, Value.ofEntries_map Node.toValue once]

def conversion : Conversion σ dialect where
  toValue := Node.toValue
  null := rfl
  boolean := fun _ => rfl
  number := fun whole => Number.toValue_of_whole? whole numberLayout
  text := fun _ => rfl
  list := fun nodes => congrArg Value.array (toValues_eq_map nodes)
  map := toValue_object
  wraps := fun same => congrArg Node.toValue same

end Hcl

/-! ### Agreement -/

/-- Data has its own value in every format, up to the order of the entries of its maps: each path leads
to something in all formats or in none, and what it leads to has the same text, or none for the same
reason. -/
theorem formats_agree {datum : Datum} (distinct : datum.Distinct) :
    (∃ json, Holds Json.dialect datum json) ∧ (∃ yaml, Holds Yaml.dialect datum yaml) ∧
      (∃ hcl, Holds Hcl.dialect datum hcl) ∧
    ∀ json yaml hcl, Holds Json.dialect datum json → Holds Yaml.dialect datum yaml →
      Holds Hcl.dialect datum hcl →
      Value.Alike (datum.toValue : Value σ) json.toValue ∧
      Value.Alike (json.toValue : Value σ) yaml.toValue ∧
      Value.Alike (json.toValue : Value σ) hcl.toValue ∧
      Value.Alike (yaml.toValue : Value σ) hcl.toValue ∧
      ∀ path,
        (lookup [(json.toValue : Value σ)] path = none ∧ lookup [(yaml.toValue : Value σ)] path = none ∧
          lookup [(hcl.toValue : Value σ)] path = none) ∨
        ∃ inJson inYaml inHcl : Value σ,
          lookup [json.toValue] path = some inJson ∧ lookup [yaml.toValue] path = some inYaml ∧
          lookup [hcl.toValue] path = some inHcl ∧
          ∀ args host, inJson.render args host = inYaml.render args host ∧
            inJson.render args host = inHcl.render args host := by
  refine ⟨exists_holds Json.dialect datum, exists_holds Yaml.dialect datum,
    exists_holds Hcl.dialect datum, ?_⟩
  intro json yaml hcl holdsJson holdsYaml holdsHcl
  have plain : Value.Alike (datum.toValue : Value σ) json.toValue :=
    Datum.conversion.alike_of_holds Json.conversion distinct datum.holds_self holdsJson
  have jsonYaml : Value.Alike (json.toValue : Value σ) yaml.toValue :=
    Json.conversion.alike_of_holds Yaml.conversion distinct holdsJson holdsYaml
  have jsonHcl : Value.Alike (json.toValue : Value σ) hcl.toValue :=
    Json.conversion.alike_of_holds Hcl.conversion distinct holdsJson holdsHcl
  have yamlHcl : Value.Alike (yaml.toValue : Value σ) hcl.toValue :=
    Yaml.conversion.alike_of_holds Hcl.conversion distinct holdsYaml holdsHcl
  refine ⟨plain, jsonYaml, jsonHcl, yamlHcl, fun path => ?_⟩
  have inYaml := lookup_alike (.cons jsonYaml .nil) path
  have inHcl := lookup_alike (.cons jsonHcl .nil) path
  generalize lookup [(json.toValue : Value σ)] path = found at inYaml inHcl ⊢
  generalize lookup [(yaml.toValue : Value σ)] path = found' at inYaml ⊢
  generalize lookup [(hcl.toValue : Value σ)] path = found'' at inHcl ⊢
  cases inYaml with
  | none =>
    cases inHcl
    exact .inl ⟨rfl, rfl, rfl⟩
  | some alike =>
    cases inHcl with
    | some alike' =>
      exact .inr ⟨_, _, _, rfl, rfl, rfl, fun args host =>
        ⟨alike.render args host, alike'.render args host⟩⟩

theorem formats_agree_tagged :
    Value.Alike
      ((Json.Node.object [("b", .string "x"),
        ("a", .array [.number (.natural 18446744073709551615), .null])]).toValue : Value Unit)
      (Yaml.Node.tagged "t" (.mapping [(.string "a", .sequence
        [.number (.natural 18446744073709551615), .tagged "u" .null]),
        (.string "b", .string "x")])).toValue ∧
    Value.Alike
      ((Json.Node.object [("b", .string "x"),
        ("a", .array [.number (.natural 18446744073709551615), .null])]).toValue : Value Unit)
      (Hcl.Node.object [("a", .array [.number (.natural 18446744073709551615), .null]),
        ("b", .string "x")]).toValue := by
  let n : Whole := ⟨18446744073709551615, by decide, by decide⟩
  let datum : Datum := .map [("a", .list [.whole n, .null]), ("b", .text "x")]
  have distinct : datum.Distinct := by
    refine .map (by decide) (List.forall_mem_cons.2 ⟨.list ?_, List.forall_mem_singleton.2 (.text "x")⟩)
    exact List.forall_mem_cons.2 ⟨.whole n, List.forall_mem_singleton.2 .null⟩
  have holdsJson : Holds Json.dialect datum (.object [("b", .string "x"),
      ("a", .array [.number (.natural 18446744073709551615), .null])]) := by
    refine .map rfl (.swap _ _ _) rfl (.cons (.list rfl ?_) (.cons (.text rfl) .nil))
    exact .cons (.whole rfl rfl) (.cons (.null rfl) .nil)
  have holdsYaml : Holds Yaml.dialect datum (.tagged "t" (Yaml.dialect.map [("a", .sequence
      [.number (.natural 18446744073709551615), .tagged "u" .null]), ("b", .string "x")])) := by
    refine .map (.tagged "t" (.bare _)) (.refl _) rfl
      (.cons (.list (.bare _) ?_) (.cons (.text (.bare _)) .nil))
    exact .cons (.whole (.bare _) rfl) (.cons (.null (.tagged "u" (.bare _))) .nil)
  have holdsHcl : Holds Hcl.dialect datum (.object
      [("a", .array [.number (.natural 18446744073709551615), .null]), ("b", .string "x")]) := by
    refine .map rfl (.refl _) rfl (.cons (.list rfl ?_) (.cons (.text rfl) .nil))
    exact .cons (.whole rfl rfl) (.cons (.null rfl) .nil)
  obtain ⟨-, -, -, agree⟩ := @formats_agree Unit datum distinct
  obtain ⟨-, jsonYaml, jsonHcl, -⟩ := agree _ _ _ holdsJson holdsYaml holdsHcl
  exact ⟨jsonYaml, jsonHcl⟩

end StyleTokens
