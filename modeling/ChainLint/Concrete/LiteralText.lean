import ChainLint.Numeral
import ChainLint.Tree.Node

/-!
# The values of JavaScript literals

What an escape sequence and a number in a JavaScript text stand for. Text that is no valid escape stands
for itself, and text that is no number stands for the value that is no number, so that nothing is refused
here except an escape whose number is beyond all bounds.
-/

namespace ChainLint.Concrete

open Text Decimal

namespace EscapeSequence

/-- The characters with a short escape. -/
def short? : Char → Option Nat
  | 'n' => some 0x0a
  | 't' => some 0x09
  | 'r' => some 0x0d
  | 'b' => some 0x08
  | 'f' => some 0x0c
  | 'v' => some 0x0b
  | '0' => some 0
  | _ => none

/-- Braces around the digits of an escape. -/
def isBrace (c : Char) : Bool := c == '\x7b' || c == '\x7d'

def stripBraces (cs : List Char) : List Char :=
  ((cs.dropWhile isBrace).reverse.dropWhile isBrace).reverse

/-- The numbers that an escape may have without being refused. -/
def isBounded (n : Int) : Bool := decide (-0x80000000 ≤ n) && decide (n < 0x80000000)

def plain (cs : List Char) : List CodePoint := cs.map CodePoint.ofChar

/-- The code point of an escape with hexadecimal digits; without such digits, or if there is no such code
point, the escape stands for its own body. There is no answer for a number out of bounds. -/
def byNumber? (body digits : List Char) : Option (List CodePoint) :=
  match Numeral.readHexInteger? (stripBraces digits) with
  | none => some (plain body)
  | some n =>
    if !isBounded n then none
    else if n < 0 then some (plain body)
    else
      match CodePoint.ofNat? n.toNat with
      | some p => some [p]
      | none => some (plain body)

/-- The code points that the text after the backslash stands for. -/
def ofBody? (body : List Char) : Option (List CodePoint) :=
  match body with
  | 'x' :: digits => byNumber? body digits
  | 'u' :: digits => byNumber? body digits
  | ['\n'] => some []
  | ['\r', '\n'] => some []
  | ['\r'] => some []
  | [c] =>
    match (short? c).bind CodePoint.ofNat? with
    | some p => some [p]
    | none => some (plain body)
  | _ => some (plain body)

/-- The code points that an escape sequence stands for; its first character is the backslash. -/
def decode? (sequence : List Char) : Option (List CodePoint) := ofBody? (sequence.drop 1)

end EscapeSequence

/-- A part of the text of a string literal, between the quotes. -/
inductive Fragment where
  | plain (text : List Char)
  | escape (sequence : List Char)
  deriving Repr, DecidableEq

namespace Fragment

/-- The code points that a part stands for. -/
def points? : Fragment → Option (List CodePoint)
  | .plain text => some (EscapeSequence.plain text)
  | .escape sequence => EscapeSequence.decode? sequence

end Fragment

namespace NumberText

/-- The digits of a number, without separators and without the marks of a big integer at the end. -/
def clean (cs : List Char) : List Char :=
  ((cs.filter (· != '_')).reverse.dropWhile (· == 'n')).reverse

/-- The value of a number: an integer if it reads as one, else a real. -/
def value (cs : List Char) : LiteralValue :=
  let digits := clean cs
  match Numeral.readInteger? digits with
  | some n => .integer n
  | none => .real ((Numeral.readReal? digits).getD .nan)

end NumberText

end ChainLint.Concrete
