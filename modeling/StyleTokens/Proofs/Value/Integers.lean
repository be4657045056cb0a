import StyleTokens.Hcl.Node
import StyleTokens.Json.Node
import StyleTokens.Proofs.Decimal.Canonical
import StyleTokens.Proofs.Value.Common
import StyleTokens.Value.Render
import StyleTokens.Yaml.Value

/-! Integers from their conversion to their text. Whichever way a whole number of 64 bits becomes a
value, with its sign or without one and from whatever format, the value is the same one. The text
of an integer of any size is its canonical decimal text, so that no two integers have one text. -/

set_option autoImplicit false

namespace StyleTokens

variable {σ : Type}

/-! ### Conversions -/

/-- A value that some conversion makes of a whole number. A conversion that has no room for the number
makes none of it. -/
inductive Whole.Becomes (n : Whole) : Value σ → Prop where
  | signed {i : Int64} (same : i.toInt = n.value) : Becomes n (.integer i)
  | narrow {i : Int32} (same : i.toInt = n.value) : Becomes n (.ofInt32 i)
  | unsigned {u : UInt64} (same : (u.toNat : Int) = n.value) : Becomes n (.ofUInt64 u)
  | foreign {signed? : Option Int64} {unsigned? : Option UInt64} (read : ReadAs n signed? unsigned?)
      (text : String) : Becomes n (.ofReadings signed? unsigned? text)
  | json {number : Number} (same : number.whole? = some n) :
      Becomes n (Json.Node.number number).toValue
  | yaml {number : Number} (same : number.whole? = some n) :
      Becomes n (Yaml.Node.number number).toValue
  | hcl {number : Number} (same : number.whole? = some n) :
      Becomes n (Hcl.Node.number number).toValue

namespace Whole

variable {n : Whole} {value : Value σ}

theorem Becomes.eq_toValue (made : n.Becomes value) : value = n.toValue := by
  cases made with
  | signed same => exact (toValue_of_toInt same).symm
  | narrow same => exact (toValue_of_toInt ((Int32.toInt_toInt64 _).trans same)).symm
  | unsigned same => exact (toValue_of_toNat same).symm
  | foreign read text => exact toValue_of_readAs read text
  | json same => exact Number.toValue_of_whole? same Json.numberLayout
  | yaml same => exact Number.toValue_of_whole? same Yaml.numberLayout
  | hcl same => exact Number.toValue_of_whole? same Hcl.numberLayout

theorem toValue_eq_integer_iff :
    (∃ i : Int64, i.toInt = n.value ∧ (n.toValue : Value σ) = .integer i) ↔
      n.value ≤ Int.pow 2 63 - 1 := by
  constructor
  · rintro ⟨i, same, -⟩
    have := i.toInt_lt
    rw [pow_63]
    omega
  · intro small
    obtain ⟨i, same⟩ := n.exists_toInt (by omega)
    exact ⟨i, same, toValue_of_toInt same⟩

theorem toValue_eq_bigInteger_iff :
    (n.toValue : Value σ) = .bigInteger n.value ↔ Int.pow 2 63 - 1 < n.value := by
  rw [toValue]
  split
  · simp only [reduceCtorEq, false_iff]
    omega
  · simp only [true_iff]
    omega

end Whole

/-! ### Texts -/

namespace Value

/-- The integer that a value is, whatever its size. -/
def int? : Value σ → Option Int
  | .integer n => some n.toInt
  | .bigInteger n => some n
  | _ => none

/-- The value has this text, whatever the arguments and whatever the state. -/
def Shows (value : Value σ) (text : String) : Prop :=
  ∀ args host, value.render args host = (.ok (some text), host)

theorem shows_of_int? {value : Value σ} {n : Int} (same : value.int? = some n) :
    value.Shows (toString n) := by
  intro args host
  cases value with
  | integer i =>
    cases same
    rfl
  | bigInteger i =>
    cases same
    rfl
  | _ => cases same

theorem int?_toValue (n : Whole) : (n.toValue : Value σ).int? = some n.value := by
  rw [Whole.toValue]
  split
  · next small =>
    obtain ⟨i, same⟩ := n.exists_toInt small
    rw [int?, ← same, Int64.ofInt_toInt]
  · rfl

end Value

/-- Integers keep what they are. A whole number of 64 bits becomes a signed integer where one has room
for it, else a big one. An integer of any size has its canonical decimal text, and no other integer
has that text. -/
theorem integers_survive :
    (∀ {n : Whole} {value : Value σ}, n.Becomes value →
      value.int? = some n.value ∧
      ((∃ i : Int64, i.toInt = n.value ∧ value = .integer i) ↔ n.value ≤ Int.pow 2 63 - 1) ∧
      (value = .bigInteger n.value ↔ Int.pow 2 63 - 1 < n.value)) ∧
    (∀ {n : Int} {value : Value σ}, value.int? = some n →
      ∃ text : String, value.Shows text ∧ (Value.bigInteger n : Value σ).Shows text ∧
        (∀ written, Decimal.Canonical written n ↔ written = text.toList) ∧
        Decimal.integerOf text.toList = n) ∧
    (∀ {n n' : Int} {value value' : Value σ}, value.int? = some n → value'.int? = some n' →
      ∀ args host, value.render args host = value'.render args host ↔ n = n') := by
  refine ⟨fun made => ?_, fun same => ?_, fun same same' args host => ?_⟩
  · rw [made.eq_toValue]
    exact ⟨Value.int?_toValue _, Whole.toValue_eq_integer_iff, Whole.toValue_eq_bigInteger_iff⟩
  · exact ⟨_, Value.shows_of_int? same, Value.shows_of_int? rfl, fun _ => Decimal.canonical_iff,
      (Decimal.canonical_toString _).integerOf_eq⟩
  · rw [Value.shows_of_int? same args host, Value.shows_of_int? same' args host]
    constructor
    · intro alike
      simp only [Prod.mk.injEq, Except.ok.injEq, Option.some_inj, and_true] at alike
      exact Decimal.toString_inj alike
    · rintro rfl
      rfl

/-- The first integer without room in a signed one, in a document of each format. -/
theorem integers_survive_limit :
    (Json.Node.number (.natural 9223372036854775808)).toValue =
      (.bigInteger (Int.pow 2 63) : Value Unit) ∧
    (Yaml.Node.number (.natural 9223372036854775808)).toValue =
      (.bigInteger (Int.pow 2 63) : Value Unit) ∧
    (Hcl.Node.number (.natural 9223372036854775808)).toValue =
      (.bigInteger (Int.pow 2 63) : Value Unit) :=
  have big {value : Value Unit} (made : Whole.Becomes ⟨Int.pow 2 63, by decide, by decide⟩ value) :
      value = .bigInteger (Int.pow 2 63) := (integers_survive.1 made).2.2.2 (by decide)
  ⟨big (.json rfl), big (.yaml rfl), big (.hcl rfl)⟩

end StyleTokens
