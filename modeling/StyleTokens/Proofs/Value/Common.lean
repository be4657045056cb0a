import StyleTokens.Number
import StyleTokens.Proofs.Value.Alike
import StyleTokens.Proofs.Value.Entries

/-! Data that a format can hold: null, booleans, whole numbers of 64 bits, texts, lists, and maps with
texts for keys. A document holds such data however it orders the entries of its maps and whatever wraps
its nodes. Where the values of nodes are made from those of the nodes beneath them, two documents that
hold the same data have alike values, also if they are of different formats. -/

set_option autoImplicit false

namespace StyleTokens

variable {σ : Type}

/-! ### Whole numbers -/

/-- An integer that has 64 bits, with its sign or without one. -/
structure Whole where
  value : Int
  lower : -Int.pow 2 63 ≤ value
  upper : value < Int.pow 2 64

/-- A big integer only where no signed one of 64 bits will do. -/
def Whole.toValue (n : Whole) : Value σ :=
  if n.value < Int.pow 2 63 then .integer (Int64.ofInt n.value) else .bigInteger n.value

theorem Whole.alike_toValue (n : Whole) : Value.Alike (n.toValue : Value σ) n.toValue := by
  rw [Whole.toValue]
  split
  · exact .integer _
  · exact .bigInteger _

theorem pow_63 : Int.pow 2 63 = 9223372036854775808 := rfl

theorem pow_64 : Int.pow 2 64 = 18446744073709551616 := rfl

namespace Whole

variable {n : Whole}

theorem toValue_of_toInt {i : Int64} (same : i.toInt = n.value) :
    (n.toValue : Value σ) = .integer i := by
  have small : n.value < Int.pow 2 63 := by
    rw [pow_63, ← same]
    exact i.toInt_lt
  rw [toValue, if_pos small, ← same, Int64.ofInt_toInt]

theorem toValue_of_toNat {u : UInt64} (same : (u.toNat : Int) = n.value) :
    (n.toValue : Value σ) = .ofUInt64 u := by
  have small : u.toNat < Nat.pow 2 63 ↔ (u.toNat : Int) < Int.pow 2 63 := Int.ofNat_lt.symm
  rw [toValue, Value.ofUInt64, ← same]
  simp only [small]
  split
  · rw [Int64.ofInt_eq_ofNat, ← UInt64.toInt64_ofNat', UInt64.ofNat_toNat]
  · rfl

theorem exists_toInt (small : n.value < Int.pow 2 63) : ∃ i : Int64, i.toInt = n.value := by
  have lower := n.lower
  rw [pow_63] at small lower
  exact ⟨.ofInt n.value, Int64.toInt_ofInt_of_le (by omega) (by omega)⟩

theorem exists_toNat (unsigned : 0 ≤ n.value) : ∃ u : UInt64, (u.toNat : Int) = n.value := by
  have upper := n.upper
  rw [pow_64] at upper
  have back : (UInt64.ofNat n.value.toNat).toNat = n.value.toNat :=
    UInt64.toNat_ofNat_of_lt (by simp [UInt64.size]; omega)
  exact ⟨.ofNat n.value.toNat, by rw [back, Int.toNat_of_nonneg unsigned]⟩

/-- The readings of a number that is `n`. Each of them gives `n` if it has room for it; the one without
sign is asked only where the other has none. -/
structure ReadAs (n : Whole) (signed? : Option Int64) (unsigned? : Option UInt64) : Prop where
  signed : ∀ i, signed? = some i ↔ i.toInt = n.value
  unsigned : signed? = none → ∀ u, unsigned? = some u ↔ (u.toNat : Int) = n.value

theorem toValue_of_readAs {signed : Option Int64} {unsigned : Option UInt64}
    (read : ReadAs n signed unsigned) (text : String) :
    (.ofReadings signed unsigned text : Value σ) = n.toValue := by
  cases signed with
  | some i => exact (toValue_of_toInt ((read.signed i).1 rfl)).symm
  | none =>
    have large : ¬n.value < Int.pow 2 63 := fun small =>
      have ⟨i, same⟩ := exists_toInt small
      nomatch (read.signed i).2 same
    have ⟨u, same⟩ : ∃ u : UInt64, (u.toNat : Int) = n.value :=
      exists_toNat (by rw [pow_63] at large; omega)
    rw [(read.unsigned rfl u).2 same, toValue_of_toNat same, Value.ofReadings]

end Whole

namespace Number

theorem natural_bounds (value : UInt64) :
    -Int.pow 2 63 ≤ (value.toNat : Int) ∧ (value.toNat : Int) < Int.pow 2 64 := by
  have := value.toNat_lt
  rw [pow_63, pow_64]
  omega

theorem negative_bounds (value : Int64) :
    -Int.pow 2 63 ≤ value.toInt ∧ value.toInt < Int.pow 2 64 := by
  have := value.le_toInt
  have := value.toInt_lt
  rw [pow_63, pow_64]
  omega

/-- What a number is, unless it is a double. -/
def whole? : Number → Option Whole
  | .natural value => some ⟨value.toNat, (natural_bounds value).1, (natural_bounds value).2⟩
  | .negative value => some ⟨value.toInt, (negative_bounds value).1, (negative_bounds value).2⟩
  | .float _ => none

theorem exists_whole (n : Whole) : ∃ number, whole? number = some n := by
  rcases Int.lt_or_le n.value 0 with signed | unsigned
  · have ⟨i, same⟩ := n.exists_toInt (by rw [pow_63]; omega)
    exact ⟨.negative i, by simp [whole?, same]⟩
  · have ⟨u, same⟩ := n.exists_toNat unsigned
    exact ⟨.natural u, by simp [whole?, same]⟩

theorem toInt_toInt64 {value : UInt64} (small : value.toNat < Nat.pow 2 63) :
    value.toInt64.toInt = value.toNat := by
  have half : 2 * value.toBitVec.toNat < 2 ^ 64 := by
    rw [Nat.pow_eq] at small
    rw [UInt64.toNat_toBitVec]
    omega
  exact BitVec.toInt_eq_toNat_of_lt half

theorem readAs_of_whole? {number : Number} {n : Whole} (whole : number.whole? = some n) :
    n.ReadAs number.toInt64? number.toUInt64? := by
  cases number with
  | natural value =>
    cases whole
    constructor
    · intro i
      rw [toInt64?]
      split
      · next small =>
        have same := toInt_toInt64 small
        simp only [Option.some_inj, ← same, Int64.toInt_inj, eq_comm]
      · next large =>
        have := i.toInt_lt
        rw [Nat.pow_eq] at large
        simp only [reduceCtorEq, false_iff]
        omega
    · intro _ u
      rw [toUInt64?, Option.some_inj, Int.ofNat_inj, UInt64.toNat_inj, eq_comm]
  | negative value =>
    cases whole
    exact ⟨fun i => by rw [toInt64?, Option.some_inj, Int64.toInt_inj, eq_comm], nofun⟩
  | float value => cases whole

/-- The layout is for doubles only. -/
theorem toValue_of_whole? {number : Number} {n : Whole} (whole : number.whole? = some n)
    (layout : Decimal.Layout) : (number.toValue layout : Value σ) = n.toValue :=
  n.toValue_of_readAs (readAs_of_whole? whole) (number.text layout)

end Number

/-! ### Data -/

inductive Datum where
  | null
  | boolean (value : Bool)
  | whole (n : Whole)
  | text (value : String)
  | list (items : List Datum)
  | map (entries : List (String × Datum))

/-- The keys of every map in the data are distinct. -/
inductive Datum.Distinct : Datum → Prop where
  | null : Distinct .null
  | boolean (value : Bool) : Distinct (.boolean value)
  | whole (n : Whole) : Distinct (.whole n)
  | text (value : String) : Distinct (.text value)
  | list {items : List Datum} (all : ∀ item ∈ items, Distinct item) : Distinct (.list items)
  | map {entries : List (String × Datum)} (once : (entries.map Prod.fst).Nodup)
      (all : ∀ item ∈ entries.map Prod.snd, Distinct item) : Distinct (.map entries)

mutual

def Datum.toValue : Datum → Value σ
  | .null => .null
  | .boolean value => .boolean value
  | .whole n => n.toValue
  | .text value => .string value
  | .list items => .array (Datum.toValues items)
  | .map entries => .object (Datum.toEntries entries)

def Datum.toValues : List Datum → List (Value σ)
  | [] => []
  | item :: items => item.toValue :: Datum.toValues items

def Datum.toEntries : List (String × Datum) → List (String × Value σ)
  | [] => []
  | (key, item) :: entries => (key, item.toValue) :: Datum.toEntries entries

end

/-! ### Documents that hold data -/

/-- The nodes of one format that such data needs. -/
structure Dialect (ν : Type) where
  null : ν
  boolean : Bool → ν
  number : Number → ν
  text : String → ν
  list : List ν → ν
  map : List (String × ν) → ν
  /-- The first node is the second one, perhaps with something around it that does not count. -/
  Wraps : ν → ν → Prop
  wraps_refl : ∀ node, Wraps node node

section

variable {ν : Type}

/-- A node that holds the data, with the entries of each map in some order. -/
inductive Holds (dialect : Dialect ν) : Datum → ν → Prop where
  | null {node : ν} (wraps : dialect.Wraps node dialect.null) : Holds dialect .null node
  | boolean {value : Bool} {node : ν} (wraps : dialect.Wraps node (dialect.boolean value)) :
      Holds dialect (.boolean value) node
  | whole {n : Whole} {number : Number} {node : ν} (wraps : dialect.Wraps node (dialect.number number))
      (whole : number.whole? = some n) : Holds dialect (.whole n) node
  | text {value : String} {node : ν} (wraps : dialect.Wraps node (dialect.text value)) :
      Holds dialect (.text value) node
  | list {items : List Datum} {nodes : List ν} {node : ν}
      (wraps : dialect.Wraps node (dialect.list nodes))
      (all : List.Forall₂ (Holds dialect) items nodes) : Holds dialect (.list items) node
  | map {entries : List (String × Datum)} {nodes ordered : List (String × ν)} {node : ν}
      (wraps : dialect.Wraps node (dialect.map nodes)) (order : nodes.Perm ordered)
      (keys : entries.map Prod.fst = ordered.map Prod.fst)
      (all : List.Forall₂ (Holds dialect) (entries.map Prod.snd) (ordered.map Prod.snd)) :
      Holds dialect (.map entries) node

variable (dialect : Dialect ν)

mutual

/-- No data is beyond a format. -/
theorem exists_holds : (datum : Datum) → ∃ node, Holds dialect datum node
  | .null => ⟨_, .null (dialect.wraps_refl _)⟩
  | .boolean _ => ⟨_, .boolean (dialect.wraps_refl _)⟩
  | .whole n =>
    have ⟨_, whole⟩ := Number.exists_whole n
    ⟨_, .whole (dialect.wraps_refl _) whole⟩
  | .text _ => ⟨_, .text (dialect.wraps_refl _)⟩
  | .list items =>
    have ⟨_, all⟩ := exists_holds_items items
    ⟨_, .list (dialect.wraps_refl _) all⟩
  | .map entries =>
    have ⟨nodes, keys, all⟩ := exists_holds_entries entries
    ⟨_, .map (dialect.wraps_refl _) (.refl nodes) keys all⟩

theorem exists_holds_items :
    (items : List Datum) → ∃ nodes, List.Forall₂ (Holds dialect) items nodes
  | [] => ⟨[], .nil⟩
  | item :: items =>
    have ⟨node, first⟩ := exists_holds item
    have ⟨nodes, later⟩ := exists_holds_items items
    ⟨node :: nodes, .cons first later⟩

theorem exists_holds_entries : (entries : List (String × Datum)) →
    ∃ nodes : List (String × ν), entries.map Prod.fst = nodes.map Prod.fst ∧
      List.Forall₂ (Holds dialect) (entries.map Prod.snd) (nodes.map Prod.snd)
  | [] => ⟨[], rfl, .nil⟩
  | (key, item) :: entries =>
    have ⟨node, first⟩ := exists_holds item
    have ⟨nodes, keys, later⟩ := exists_holds_entries entries
    ⟨(key, node) :: nodes, congrArg (key :: ·) keys, .cons first later⟩

end

end

/-! ### Values of documents that hold the same data -/

/-- With distinct keys no entry gives way to another. -/
theorem Value.ofEntries_map {α : Type} {entries : List (String × α)} (convert : α → Value σ)
    (once : (entries.map Prod.fst).Nodup) :
    Value.ofEntries (entries.map (Prod.map id convert)) =
      .object (entries.map (Prod.map id convert)) := by
  rw [Value.ofEntries, distinctEntries_of_nodup]
  simpa [Function.comp_def] using once

/-- Values of the nodes of a format. The value of a list is made from those of its items, that of a map
from those of its entries, and what wraps a node does not count. -/
structure Conversion (σ : Type) {ν : Type} (dialect : Dialect ν) where
  toValue : ν → Value σ
  null : toValue dialect.null = .null
  boolean : ∀ value, toValue (dialect.boolean value) = .boolean value
  number : ∀ {number n}, number.whole? = some n → toValue (dialect.number number) = n.toValue
  text : ∀ value, toValue (dialect.text value) = .string value
  list : ∀ nodes, toValue (dialect.list nodes) = .array (nodes.map toValue)
  map : ∀ nodes, (nodes.map Prod.fst).Nodup →
    toValue (dialect.map nodes) = .object (nodes.map (Prod.map id toValue))
  wraps : ∀ {node inner}, dialect.Wraps node inner → toValue node = toValue inner

namespace Conversion

variable {ν ν' : Type} {dialect : Dialect ν} {dialect' : Dialect ν'}
  (first : Conversion σ dialect) (second : Conversion σ dialect')

theorem alike_of_wraps {node inner : ν} {node' inner' : ν'} (wraps : dialect.Wraps node inner)
    (wraps' : dialect'.Wraps node' inner')
    (alike : Value.Alike (first.toValue inner) (second.toValue inner')) :
    Value.Alike (first.toValue node) (second.toValue node') := by
  rwa [first.wraps wraps, second.wraps wraps']

theorem alike_items {items : List Datum} {nodes : List ν} {nodes' : List ν'}
    (each : ∀ item ∈ items, ∀ {node node'}, Holds dialect item node → Holds dialect' item node' →
      Value.Alike (first.toValue node) (second.toValue node'))
    (all : List.Forall₂ (Holds dialect) items nodes)
    (all' : List.Forall₂ (Holds dialect') items nodes') :
    List.Forall₂ Value.Alike (nodes.map first.toValue) (nodes'.map second.toValue) := by
  induction all generalizing nodes' with
  | nil =>
    cases all'
    exact .nil
  | cons holds all ih =>
    obtain ⟨one, others⟩ := List.forall_mem_cons.1 each
    cases all' with
    | cons holds' all' => exact .cons (one holds holds') (ih others all')

theorem alike_list {nodes : List ν} {nodes' : List ν'}
    (all : List.Forall₂ Value.Alike (nodes.map first.toValue) (nodes'.map second.toValue)) :
    Value.Alike (first.toValue (dialect.list nodes)) (second.toValue (dialect'.list nodes')) := by
  rw [first.list, second.list]
  exact .array all

theorem alike_map {nodes ordered : List (String × ν)} {nodes' ordered' : List (String × ν')}
    (once : (ordered.map Prod.fst).Nodup) (keys : ordered.map Prod.fst = ordered'.map Prod.fst)
    (order : nodes.Perm ordered) (order' : nodes'.Perm ordered')
    (all : List.Forall₂ Value.Alike ((ordered.map Prod.snd).map first.toValue)
      ((ordered'.map Prod.snd).map second.toValue)) :
    Value.Alike (first.toValue (dialect.map nodes)) (second.toValue (dialect'.map nodes')) := by
  have distinct : (nodes.map Prod.fst).Nodup := (order.map Prod.fst).nodup_iff.2 once
  have distinct' : (nodes'.map Prod.fst).Nodup := (order'.map Prod.fst).nodup_iff.2 (keys ▸ once)
  rw [first.map nodes distinct, second.map nodes' distinct']
  refine .object ?_ (order.map _) ?_ ?_ (order'.symm.map _)
  · simpa [Function.comp_def] using distinct
  · simpa [Function.comp_def] using keys
  · simpa [Function.comp_def] using all

theorem alike_of_holds {datum : Datum} {node : ν} {node' : ν'} : datum.Distinct →
    Holds dialect datum node → Holds dialect' datum node' →
    Value.Alike (first.toValue node) (second.toValue node')
  | .null, .null wraps, .null wraps' =>
    alike_of_wraps first second wraps wraps' (first.null ▸ second.null ▸ .null)
  | .boolean value, .boolean wraps, .boolean wraps' =>
    alike_of_wraps first second wraps wraps'
      (first.boolean value ▸ second.boolean value ▸ .boolean value)
  | .whole n, .whole wraps whole, .whole wraps' whole' =>
    alike_of_wraps first second wraps wraps'
      (first.number whole ▸ second.number whole' ▸ n.alike_toValue)
  | .text value, .text wraps, .text wraps' =>
    alike_of_wraps first second wraps wraps' (first.text value ▸ second.text value ▸ .string value)
  | .list distinct, .list wraps all, .list wraps' all' =>
    have each := alike_items first second
      (fun item inside _ _ => alike_of_holds (distinct item inside)) all all'
    alike_of_wraps first second wraps wraps' (alike_list first second each)
  | .map once distinct, .map wraps order keys all, .map wraps' order' keys' all' =>
    have each := alike_items first second
      (fun item inside _ _ => alike_of_holds (distinct item inside)) all all'
    alike_of_wraps first second wraps wraps'
      (alike_map first second (keys ▸ once) (keys ▸ keys') order order' each)

end Conversion

/-! ### Data as a format of its own -/

namespace Datum

/-- A double is no data; null stands in for it. -/
def ofNumber (number : Number) : Datum := number.whole?.elim .null .whole

theorem ofNumber_of_whole? {number : Number} {n : Whole} (same : number.whole? = some n) :
    ofNumber number = .whole n := by
  rw [ofNumber, same, Option.elim_some]

def dialect : Dialect Datum where
  null := .null
  boolean := .boolean
  number := ofNumber
  text := .text
  list := .list
  map := .map
  Wraps := Eq
  wraps_refl := fun _ => rfl

mutual

theorem holds_self : (datum : Datum) → Holds dialect datum datum
  | .null => .null rfl
  | .boolean _ => .boolean rfl
  | .whole n =>
    have ⟨_, same⟩ := Number.exists_whole n
    .whole (ofNumber_of_whole? same).symm same
  | .text _ => .text rfl
  | .list items => .list rfl (holds_self_items items)
  | .map entries => .map rfl (.refl entries) rfl (holds_self_entries entries)

theorem holds_self_items : (items : List Datum) → List.Forall₂ (Holds dialect) items items
  | [] => .nil
  | item :: items => .cons (holds_self item) (holds_self_items items)

theorem holds_self_entries : (entries : List (String × Datum)) →
    List.Forall₂ (Holds dialect) (entries.map Prod.snd) (entries.map Prod.snd)
  | [] => .nil
  | (_, item) :: entries => .cons (holds_self item) (holds_self_entries entries)

end

theorem toValues_eq_map (items : List Datum) :
    (toValues items : List (Value σ)) = items.map toValue := by
  induction items with
  | nil => rfl
  | cons item items ih => rw [toValues, ih, List.map_cons]

theorem toEntries_eq_map (entries : List (String × Datum)) :
    (toEntries entries : List (String × Value σ)) = entries.map (Prod.map id toValue) := by
  induction entries with
  | nil => rfl
  | cons entry entries ih =>
    rw [toEntries, ih]
    rfl

def conversion : Conversion σ dialect where
  toValue := toValue
  null := rfl
  boolean := fun _ => rfl
  number := fun same => congrArg toValue (ofNumber_of_whole? same)
  text := fun _ => rfl
  list := fun items => congrArg Value.array (toValues_eq_map items)
  map := fun entries _ => congrArg Value.object (toEntries_eq_map entries)
  wraps := fun same => congrArg toValue same

end Datum

end StyleTokens
