/-! Hangul syllables. A syllable is composed of a leading consonant, a vowel and perhaps a trailing
consonant, and its code point is computed from theirs. -/

set_option autoImplicit false

namespace StyleTokens.Text.Hangul

def syllables : Nat := 0xAC00
def leading : Nat := 0x1100
def vowels : Nat := 0x1161
/-- One before the first trailing consonant. -/
def trailing : Nat := 0x11A7

def leadingCount : Nat := 19
def vowelCount : Nat := 21
def trailingCount : Nat := 28

def decompose? (code : Nat) : Option (List Nat) :=
  let index := code - syllables
  if syllables ≤ code ∧ index < leadingCount * vowelCount * trailingCount then
    let consonant := leading + index / (vowelCount * trailingCount)
    let vowel := vowels + index % (vowelCount * trailingCount) / trailingCount
    let last := index % trailingCount
    some (if last = 0 then [consonant, vowel] else [consonant, vowel, trailing + last])
  else none

def compose? (first second : Nat) : Option Nat :=
  if leading ≤ first ∧ first < leading + leadingCount ∧
      vowels ≤ second ∧ second < vowels + vowelCount then
    some (syllables + ((first - leading) * vowelCount + (second - vowels)) * trailingCount)
  else if syllables ≤ first ∧ first < syllables + leadingCount * vowelCount * trailingCount ∧
      (first - syllables) % trailingCount = 0 ∧
      trailing < second ∧ second < trailing + trailingCount then
    some (first + (second - trailing))
  else none

example : decompose? 0xAC01 = some [0x1100, 0x1161, 0x11A8] := by decide
example : compose? 0x1100 0x1161 = some 0xAC00 ∧ compose? 0xAC00 0x11A8 = some 0xAC01 := by decide

end StyleTokens.Text.Hangul
