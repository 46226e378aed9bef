/-!
# White space

Three readings of "white space" occur: the code points that a pattern's `\s` accepts, the ASCII ones
among them, and those that may surround a number that is read from text.
-/

namespace ChainLint.Text.Property

/-- White space of Unicode 14 as a pattern's `\s` reads it, information separators included. -/
def isBlank (c : Nat) : Bool :=
  (9 ≤ c && c ≤ 13) || (28 ≤ c && c ≤ 32) || c == 0x85 || c == 0xa0 || c == 0x1680 ||
    (0x2000 ≤ c && c ≤ 0x200a) || c == 0x2028 || c == 0x2029 || c == 0x202f || c == 0x205f ||
    c == 0x3000

/-- The space and the controls from tab to carriage return. -/
def isAsciiBlank (c : Nat) : Bool := (9 ≤ c && c ≤ 13) || c == 32

/-- White space that may stand before or after a number: that of Unicode, except the four
information separators. -/
def isNumeralBlank (c : Nat) : Bool := isAsciiBlank c || (isBlank c && 0x80 ≤ c)

end ChainLint.Text.Property
