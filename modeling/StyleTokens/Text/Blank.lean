/-! White space. A character is blank when Unicode gives it the property `White_Space`: the ASCII
controls from tab to carriage return, the space, the next-line control and the no-break space, and
the wider spaces and separators. Zero-width characters and the byte order mark are not blank. -/

set_option autoImplicit false

namespace StyleTokens.Text

def blankRanges : List (Nat × Nat) :=
  [(0x09, 0x0D), (0x20, 0x20), (0x85, 0x85), (0xA0, 0xA0), (0x1680, 0x1680), (0x2000, 0x200A),
    (0x2028, 0x2029), (0x202F, 0x202F), (0x205F, 0x205F), (0x3000, 0x3000)]

def inRanges (ranges : List (Nat × Nat)) (code : Nat) : Bool :=
  ranges.any fun range => range.1 ≤ code && code ≤ range.2

def isBlank (c : Char) : Bool := inRanges blankRanges c.toNat

def trimStart (text : String) : String := String.ofList (text.toList.dropWhile isBlank)

def trimEnd (text : String) : String :=
  String.ofList (text.toList.reverse.dropWhile isBlank).reverse

def trim (text : String) : String := trimEnd (trimStart text)

example : (blankRanges.map fun range => range.2 + 1 - range.1).sum = 25 := by decide

end StyleTokens.Text
