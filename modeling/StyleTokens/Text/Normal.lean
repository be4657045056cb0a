import StyleTokens.Text.CombiningClass
import StyleTokens.Text.Composition
import StyleTokens.Text.Decomposition
import StyleTokens.Text.Hangul

/-! The composed normal form of Unicode. A text is decomposed, the characters that combine are put
in the order of their classes, and each one is composed with the starter before it, where a
composition exists and no character between them stands in the way. -/

set_option autoImplicit false

namespace StyleTokens.Text

def equivalent? (code : Nat) : Option (List Nat) :=
  match sequences.lookup code with
  | some codes => some codes
  | none => equivalents.findSome? fun run =>
      if run.1 ≤ code then (run.2[code - run.1]?).map ([·]) else none

def decompose : Nat → Nat → List Nat
  | 0, code => [code]
  | depth + 1, code =>
    match Hangul.decompose? code with
    | some codes => codes
    | none =>
      match composites.lookup code with
      | some (first, second) => decompose depth first ++ [second]
      | none => (equivalent? code).getD [code]

structure Mark where
  code : Nat
  rank : Nat
  deriving DecidableEq

def Mark.ofCode (code : Nat) : Mark := ⟨code, combiningClass code⟩

/-- Puts a mark before a text in order, behind the marks of lower class that follow it. -/
def place (mark : Mark) : List Mark → List Mark
  | [] => [mark]
  | next :: rest =>
    if 0 < next.rank ∧ next.rank < mark.rank then next :: place mark rest else mark :: next :: rest

/-- Orders the marks between starters by class; those of one class keep their order. -/
def order : List Mark → List Mark := List.foldr place []

def compose? (first second : Nat) : Option Nat :=
  match Hangul.compose? first second with
  | some code => some code
  | none => (composites.find? fun entry => entry.2.1 == first && entry.2.2 == second).map (·.1)

-- Composes what follows a starter with it. `passed` holds, last one first, the marks that stand
-- between and were not composed.
def composeFrom (starter : Nat) (passed : List Mark) : List Mark → List Nat
  | [] => starter :: (passed.reverse.map Mark.code)
  | mark :: rest =>
    let free := match passed with
      | [] => true
      | last :: _ => last.rank < mark.rank
    match if free then compose? starter mark.code else none with
    | some composed => composeFrom composed passed rest
    | none =>
      if mark.rank = 0 then
        starter :: (passed.reverse.map Mark.code) ++ composeFrom mark.code [] rest
      else composeFrom starter (mark :: passed) rest

def compose : List Mark → List Nat
  | [] => []
  | mark :: rest =>
    if mark.rank = 0 then composeFrom mark.code [] rest else mark.code :: compose rest

def nesting : Nat := 4

def marks (text : List Char) : List Mark :=
  (text.flatMap fun c => decompose nesting c.toNat).map Mark.ofCode

def recompose (text : List Char) : List Char := (compose (order (marks text))).map Char.ofNat

/-- The normal form of a text. All characters below U+0300 are in normal form, side by side too. -/
def normalForm (text : List Char) : List Char :=
  if text.all (·.toNat < 0x300) then text else recompose text

def normalize (text : String) : String := String.ofList (normalForm text.toList)

end StyleTokens.Text
