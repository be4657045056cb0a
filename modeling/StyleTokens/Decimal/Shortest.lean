import StyleTokens.Decimal.Binary

/-! The shortest decimal of a double: of all decimals that read back as it, those with the fewest
digits, and of these the nearest. The decimals that read back fill an interval around the double;
the coarsest power of ten with a multiple in it gives the digits. Two multiples can be equally near,
and which one is taken is a choice of the format. -/

set_option autoImplicit false

namespace StyleTokens.Decimal

/-- Which of two equally near numbers is taken: the one with an even last digit, or the greater. -/
inductive Tie where
  | even
  | upward
  deriving DecidableEq, Repr

structure Scaled where
  digits : Nat
  exponent : Int
  deriving DecidableEq, Repr

-- The decimals that read back as a double lie between `low` and `high`, in quarters of its unit;
-- the ends belong to them when the mantissa is even.
structure Interval where
  low : Nat
  middle : Nat
  high : Nat
  closed : Bool

/-- The doubles below a power of two are twice as dense as those above it. -/
def Interval.of (value : Binary) : Interval :=
  let below := if value.mantissa = Nat.pow 2 52 ∧ leastExponent < value.exponent then 1 else 2
  let middle := 4 * value.mantissa
  ⟨middle - below, middle, middle + 2, value.mantissa % 2 = 0⟩

def multipleAt? (tie : Tie) (value : Binary) (place : Int) : Option Nat :=
  let interval := Interval.of value
  let quarter := value.exponent - 2
  let grid := Nat.pow 10 place.toNat * Nat.pow 2 (-quarter).toNat
  let unit := Nat.pow 10 (-place).toNat * Nat.pow 2 quarter.toNat
  let inside (digits : Nat) : Bool :=
    let (low, at_, high) := (interval.low * unit, digits * grid, interval.high * unit)
    digits ≠ 0 && (if interval.closed then low ≤ at_ && at_ ≤ high else low < at_ && at_ < high)
  let below := interval.middle * unit / grid
  let toBelow := interval.middle * unit - below * grid
  let toAbove := (below + 1) * grid - interval.middle * unit
  match inside below, inside (below + 1) with
  | true, true =>
    if toBelow < toAbove ∨ (toBelow = toAbove ∧ tie = .even ∧ below % 2 = 0) then some below
    else some (below + 1)
  | true, false => some below
  | false, true => some (below + 1)
  | false, false => none

def shortestFrom (tie : Tie) (value : Binary) : Nat → Int → Scaled
  | 0, place => ⟨0, place⟩
  | steps + 1, place =>
    match multipleAt? tie value place with
    | some digits => ⟨digits, place⟩
    | none => shortestFrom tie value steps (place - 1)

def placeAbove (value : Binary) : Int :=
  (value.mantissa.log2 + 1 + value.exponent) * 30103 / 100000 + 1

/-- The shortest decimal of a positive double. No double needs more than seventeen digits. -/
def shortest (tie : Tie) (value : Binary) : Scaled :=
  shortestFrom tie value 24 (placeAbove value)

example : shortest .even ⟨2 ^ 52, -52⟩ = ⟨1, 0⟩ := by decide
example : shortest .even ⟨0x1999999999999A, -56⟩ = ⟨1, -1⟩ := by decide
example : shortest .even ⟨1, -1074⟩ = ⟨5, -324⟩ := by decide +kernel
example : shortest .even ⟨2 ^ 52, -77⟩ = ⟨29802322387695312, -24⟩ := by decide +kernel
example : shortest .upward ⟨2 ^ 52, -77⟩ = ⟨29802322387695313, -24⟩ := by decide +kernel

end StyleTokens.Decimal
