import StyleTokens.Decimal.Reading

/-! Canonical decimal texts of integers: a minus if the integer is below zero, and digits of which the
first one is no zero, unless it is the only one. An integer has one such text, which is the one it is
written as, and the text has one integer. -/

set_option autoImplicit false

namespace StyleTokens.Decimal

/-- The digits of a number. -/
structure Digits (digits : List Char) (n : Nat) : Prop where
  filled : digits ≠ []
  decimal : ∀ c ∈ digits, c.isDigit
  leading : digits.head? = some '0' → digits = ['0']
  value : digitsValue digits 0 = n

inductive Canonical : List Char → Int → Prop where
  | natural {digits : List Char} {n : Nat} (written : Digits digits n) : Canonical digits n
  | negative {digits : List Char} {n : Nat} (written : Digits digits n) (below : 0 < n) :
      Canonical ('-' :: digits) (-n)

/-- The integer that a sign, if any, and digits mean. -/
def integerOf (text : List Char) : Int :=
  let (negative, digits) := signOf text
  if negative then -digitsValue digits 0 else digitsValue digits 0

/-! ### Digits -/

theorem digitsValue_eq_ofDigitChars (digits : List Char) (before : Nat) :
    digitsValue digits before = Nat.ofDigitChars 10 digits before := by
  simp only [digitsValue, Nat.ofDigitChars_eq_foldl, digitValue, Nat.mul_comm]

theorem digitsValue_cons (c : Char) (digits : List Char) (before : Nat) :
    digitsValue (c :: digits) before = digitsValue digits (before * 10 + digitValue c) := by
  rw [digitsValue, List.foldl_cons, digitsValue]

theorem digitChar_digitValue {c : Char} (digit : c.isDigit) :
    digitValue c < 10 ∧ (digitValue c).digitChar = c := by
  have range : 48 ≤ c.toNat ∧ c.toNat ≤ 57 := Char.isDigit_iff_toNat.1 digit
  have small : digitValue c < 10 := by
    have zero : '0'.toNat = 48 := rfl
    rw [digitValue, zero]
    omega
  refine ⟨small, Char.toNat_inj.1 ?_⟩
  rw [Nat.toNat_digitChar_of_lt_ten small, digitValue]
  have zero : '0'.toNat = 48 := rfl
  omega

theorem head?_toDigits_ne_zero {n : Nat} (positive : 0 < n) :
    (Nat.toDigits 10 n).head? ≠ some '0' := by
  induction n using Nat.base_induction 10 (by decide) with
  | single n small =>
    rw [Nat.toDigits_of_lt_base small, List.head?_cons, Ne, Option.some_inj, Nat.digitChar_eq_zero]
    omega
  | digit n last small front ih =>
    rw [← Nat.toDigits_append_toDigits (by decide) front small, List.head?_append,
      List.head?_eq_some_head Nat.toDigits_ne_nil, Option.some_or, ← List.head?_eq_some_head]
    exact ih front

theorem digits_toDigits (n : Nat) : Digits (Nat.toDigits 10 n) n where
  filled := Nat.toDigits_ne_nil
  decimal _ inside := Nat.isDigit_of_mem_toDigits (by decide) (by decide) inside
  leading zero := by
    rcases Nat.eq_zero_or_pos n with rfl | positive
    · exact Nat.toDigits_zero 10
    · exact absurd zero (head?_toDigits_ne_zero positive)
  value := by rw [digitsValue_eq_ofDigitChars, Nat.ofDigitChars_ten_toDigits]

/-- Digits behind those of a number that is not zero are the digits of what they write together. -/
theorem toDigits_append_eq {digits : List Char} (decimal : ∀ c ∈ digits, c.isDigit) {before : Nat}
    (positive : 0 < before) :
    Nat.toDigits 10 before ++ digits = Nat.toDigits 10 (digitsValue digits before) := by
  induction digits generalizing before with
  | nil => exact List.append_nil _
  | cons c digits ih =>
    obtain ⟨digit, decimal⟩ := List.forall_mem_cons.1 decimal
    obtain ⟨small, same⟩ := digitChar_digitValue digit
    have step := Nat.toDigits_append_toDigits (b := 10) (by decide) positive small
    rw [Nat.toDigits_of_lt_base small, same, Nat.mul_comm] at step
    rw [List.append_cons, step, ih decimal (by omega), digitsValue_cons]

theorem Digits.eq_toDigits {digits : List Char} {n : Nat} (written : Digits digits n) :
    digits = Nat.toDigits 10 n := by
  obtain ⟨filled, decimal, leading, rfl⟩ := written
  cases digits with
  | nil => exact absurd rfl filled
  | cons c digits =>
    by_cases zero : c = '0'
    · subst zero
      rw [leading rfl]
      rfl
    · obtain ⟨digit, decimal⟩ := List.forall_mem_cons.1 decimal
      obtain ⟨small, same⟩ := digitChar_digitValue digit
      have positive : 0 < digitValue c := by
        refine Nat.pos_of_ne_zero fun none => zero ?_
        rw [← same, none]
        rfl
      have front := toDigits_append_eq decimal positive
      rw [Nat.toDigits_of_lt_base small, same, List.singleton_append] at front
      rw [digitsValue_cons, Nat.zero_mul, Nat.zero_add, front]

/-! ### Integers -/

theorem toList_toString_natural (n : Nat) : (toString (n : Int)).toList = Nat.toDigits 10 n := by
  rw [Int.toString_eq_repr, Int.repr_eq_if, if_pos (Int.natCast_nonneg n), Int.toNat_natCast,
    Nat.toList_repr]

theorem toList_toString_negative {n : Nat} (below : 0 < n) :
    (toString (-n : Int)).toList = '-' :: Nat.toDigits 10 n := by
  rw [Int.toString_eq_repr, Int.repr_eq_if, if_neg (by omega), Int.neg_neg, Int.toNat_natCast,
    String.toList_append, Nat.toList_repr]
  rfl

theorem canonical_toString (n : Int) : Canonical (toString n).toList n := by
  rcases Int.lt_or_le n 0 with negative | natural
  · obtain ⟨m, rfl⟩ := Int.exists_eq_neg_ofNat (Int.le_of_lt negative)
    rw [toList_toString_negative (by omega)]
    exact .negative (digits_toDigits m) (by omega)
  · obtain ⟨m, rfl⟩ := Int.eq_ofNat_of_zero_le natural
    rw [toList_toString_natural]
    exact .natural (digits_toDigits m)

theorem canonical_iff {text : List Char} {n : Int} :
    Canonical text n ↔ text = (toString n).toList := by
  constructor
  · intro canonical
    cases canonical with
    | natural written => rw [toList_toString_natural, written.eq_toDigits]
    | negative written below => rw [toList_toString_negative below, written.eq_toDigits]
  · rintro rfl
    exact canonical_toString n

theorem signOf_of_digits {digits : List Char} (decimal : ∀ c ∈ digits, c.isDigit) :
    signOf digits = (false, digits) := by
  rw [signOf.eq_3]
  · rintro rest rfl
    exact absurd (decimal '-' List.mem_cons_self) (by decide)
  · rintro rest rfl
    exact absurd (decimal '+' List.mem_cons_self) (by decide)

theorem Canonical.integerOf_eq {text : List Char} {n : Int} (canonical : Canonical text n) :
    integerOf text = n := by
  cases canonical with
  | natural written => simp [integerOf, signOf_of_digits written.decimal, written.value]
  | negative written below => simp [integerOf, signOf, written.value]

theorem toString_inj {n n' : Int} (same : toString n = toString n') : n = n' := by
  rw [← (canonical_toString n).integerOf_eq, same, (canonical_toString n').integerOf_eq]

end StyleTokens.Decimal
