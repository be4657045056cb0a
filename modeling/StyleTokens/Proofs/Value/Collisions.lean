import StyleTokens.Proofs.Value.Entries
import StyleTokens.Proofs.Value.Formats
import StyleTokens.Spacing

/-! Objects made from entries with colliding keys. An object built from any entries collapses them, so
that its key leads to what was given for it last. Mappings of YAML documents do so by the texts of
their keys, which may be equal where the keys are not, and spacings by their names. -/

set_option autoImplicit false

namespace StyleTokens

variable {σ : Type}

namespace Value

theorem lookup_ofEntries (entries : List (String × Value σ)) (key : String) :
    lookup [ofEntries entries] [key] = entries.reverse.lookup key := by
  rw [lookup_cons, lookup_nil, Option.or_none, walk?, ofEntries, get?,
    (collapses_distinctEntries entries).last]
  exact Option.bind_fun_some _

/-- A value that stands somewhere within another one. -/
inductive Within : Value σ → Value σ → Prop where
  | self (value : Value σ) : Within value value
  | item {part item : Value σ} {items : List (Value σ)} (inside : item ∈ items)
      (within : Within part item) : Within part (.array items)
  | entry {part value : Value σ} {key : String} {entries : List (String × Value σ)}
      (inside : (key, value) ∈ entries) (within : Within part value) : Within part (.object entries)

end Value

/-! ### Mappings of documents -/

namespace Yaml

/-- A node that stands somewhere within another one, not within a key. -/
inductive Node.Within : Node → Node → Prop where
  | self (node : Node) : Within node node
  | item {part item : Node} {items : List Node} (inside : item ∈ items) (within : Within part item) :
      Within part (.sequence items)
  | entry {part key value : Node} {entries : List (Node × Node)} (inside : (key, value) ∈ entries)
      (within : Within part value) : Within part (.mapping entries)
  | tagged {part node : Node} (tag : String) (within : Within part node) :
      Within part (.tagged tag node)

/-- The entries of a mapping by the texts of their keys, with converted values. -/
def keyed (entries : List (Node × Node)) : List (String × Value σ) :=
  entries.map fun entry => (keyText entry.1, entry.2.toValue)

theorem toValue_mapping_keyed (entries : List (Node × Node)) :
    ((Node.mapping entries).toValue : Value σ) = .object (distinctEntries (keyed entries)) := by
  have same : (toEntries entries : List (String × Value σ)) = keyed entries := by
    induction entries with
    | nil => rfl
    | cons entry entries ih => rw [toEntries, ih, keyed, keyed, List.map_cons]
  rw [Node.toValue, same, Value.ofEntries]

theorem Node.Within.of_wraps {part node inner : Node} (wraps : Wraps node inner)
    (within : part.Within inner) : part.Within node := by
  induction wraps with
  | bare node => exact within
  | tagged tag _ ih => exact .tagged tag (ih within)

theorem kind_number (layout : Decimal.Layout) (number : Number) :
    (number.toValue layout : Value σ).kind ∈ [Kind.integer, .bigInteger, .text] := by
  rw [Number.toValue]
  unfold Value.ofReadings
  split
  · simp [Value.kind]
  · unfold Value.ofUInt64
    split <;> simp [Value.kind]
  · simp [Value.kind]

theorem wraps_mapping : (node : Node) → {kept : List (String × Value σ)} →
    node.toValue = .object kept →
    ∃ entries, Wraps node (.mapping entries) ∧ kept = distinctEntries (keyed entries)
  | .mapping entries, _, same =>
    ⟨entries, .bare _, (Value.object.inj ((toValue_mapping_keyed entries).symm.trans same)).symm⟩
  | .tagged tag node, _, same =>
    have ⟨entries, wraps, kept⟩ := wraps_mapping node same
    ⟨entries, .tagged tag wraps, kept⟩
  | .number number, _, same => by
    have kind := kind_number (σ := σ) numberLayout number
    rw [Node.toValue] at same
    simp [same, Value.kind] at kind

theorem wraps_sequence : (node : Node) → {items : List (Value σ)} → node.toValue = .array items →
    ∃ nodes, Wraps node (.sequence nodes) ∧ items = nodes.map Node.toValue
  | .sequence nodes, _, same =>
    ⟨nodes, .bare _, (Value.array.inj same).symm.trans (toValues_eq_map nodes)⟩
  | .tagged tag node, _, same =>
    have ⟨nodes, wraps, items⟩ := wraps_sequence node same
    ⟨nodes, .tagged tag wraps, items⟩
  | .number number, _, same => by
    have kind := kind_number (σ := σ) numberLayout number
    rw [Node.toValue] at same
    simp [same, Value.kind] at kind

/-- Every object in a converted document is what the entries of a mapping in it collapse to. -/
theorem object_within {value : Value σ} {kept : List (String × Value σ)}
    (within : Value.Within (.object kept) value) : ∀ {node : Node}, value = node.toValue →
    ∃ entries, (Node.mapping entries).Within node ∧ Collapses (keyed entries) kept := by
  induction within with
  | self =>
    intro node same
    obtain ⟨entries, wraps, rfl⟩ := wraps_mapping node same.symm
    exact ⟨entries, .of_wraps wraps (.self _), collapses_distinctEntries _⟩
  | item inside _ ih =>
    intro node same
    obtain ⟨nodes, wraps, rfl⟩ := wraps_sequence node same.symm
    obtain ⟨inner, among, rfl⟩ := List.mem_map.1 inside
    obtain ⟨entries, deeper, collapses⟩ := ih rfl
    exact ⟨entries, .of_wraps wraps (.item among deeper), collapses⟩
  | entry inside _ ih =>
    intro node same
    obtain ⟨outer, wraps, rfl⟩ := wraps_mapping node same.symm
    have given := (collapses_distinctEntries _).subset inside
    obtain ⟨⟨_, inner⟩, among, entry⟩ := List.mem_map.1 given
    cases entry
    obtain ⟨entries, deeper, collapses⟩ := ih rfl
    exact ⟨entries, .of_wraps wraps (.entry among deeper), collapses⟩

end Yaml

/-! ### Spacings -/

theorem Spacing.layer_eq (options : Options) (sizes : List (String × Float)) :
    (layer options sizes : Value σ) =
      .object ((distinctEntries sizes).map (convertEntry (entry options))) := by
  rw [← distinctEntries_map]
  rfl

/-- Colliding keys collapse wherever an object is made. Its keys are those given, each once and in the
order of their first places, and each leads to what was given for it last. In a document, keys with
one text are one key, at any depth; among spacings, it is names that may be repeated. -/
theorem colliding_keys_collapse :
    (∀ entries : List (String × Value σ), ∃ kept, Value.ofEntries entries = .object kept ∧
      Collapses entries kept ∧
      ∀ {before after : List (String × Value σ)} {key : String} {value : Value σ},
        entries = before ++ (key, value) :: after → key ∉ after.map Prod.fst →
        lookup [Value.ofEntries entries] [key] = some value) ∧
    (∀ entries : List (Yaml.Node × Yaml.Node), ∃ kept,
      ((Yaml.Node.mapping entries).toValue : Value σ) = .object kept ∧
      Collapses (Yaml.keyed entries) kept) ∧
    ((∀ n, Yaml.keyText (.number (.natural n)) = Yaml.keyText (.string (toString n.toNat))) ∧
      (∀ b, Yaml.keyText (.boolean b) = Yaml.keyText (.string (if b then "true" else "false"))) ∧
      Yaml.keyText .null = Yaml.keyText (.string "")) ∧
    (∀ (node : Yaml.Node) (kept : List (String × Value σ)),
      Value.Within (.object kept) node.toValue →
      ∃ entries, (Yaml.Node.mapping entries).Within node ∧ Collapses (Yaml.keyed entries) kept) ∧
    (∀ (options : Spacing.Options) (sizes : List (String × Float)), ∃ kept, Collapses sizes kept ∧
      (Spacing.layer options sizes : Value σ) =
        .object (kept.map (convertEntry (Spacing.entry options)))) := by
  refine ⟨fun entries => ?_, fun entries => ?_, ⟨fun _ => rfl, fun _ => rfl, rfl⟩,
    fun node kept within => ?_, fun options sizes => ?_⟩
  · refine ⟨_, rfl, collapses_distinctEntries entries, fun split last => ?_⟩
    rw [Value.lookup_ofEntries, lookup_reverse_of_last split last]
  · exact ⟨_, Yaml.toValue_mapping_keyed entries, collapses_distinctEntries _⟩
  · exact Yaml.object_within within rfl
  · exact ⟨_, collapses_distinctEntries sizes, Spacing.layer_eq options sizes⟩

/-- A key given twice, and a mapping in a list whose two keys have one text. -/
theorem colliding_keys_collapse_pair :
    lookup [Value.ofEntries [("a", (.null : Value Unit)), ("b", .null), ("a", .boolean true)]] ["a"] =
      some (.boolean true) ∧
    ∃ entries, (Yaml.Node.mapping entries).Within
        (.sequence [.mapping [(.number (.natural 1), .null), (.string "1", .boolean true)]]) ∧
      Collapses (Yaml.keyed entries) [("1", (.boolean true : Value Unit))] := by
  obtain ⟨lists, -, -, documents, -⟩ := colliding_keys_collapse (σ := Unit)
  constructor
  · obtain ⟨-, -, -, found⟩ := lists [("a", .null), ("b", .null), ("a", .boolean true)]
    exact @found [("a", .null), ("b", .null)] [] _ _ rfl (by simp)
  · exact documents _ _ (.item (List.mem_singleton.2 rfl) (.self _))

end StyleTokens
