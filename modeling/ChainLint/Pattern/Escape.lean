import ChainLint.Numeral
import ChainLint.Pattern.Cursor
import ChainLint.Text.CharacterName

/-!
# Escapes in a pattern

What a backslash and the characters after it mean, inside a set and outside. A letter or digit after a
backslash always has a meaning or is refused, any other character stands for itself.
-/

namespace ChainLint.Pattern

open ChainLint.Text

namespace Escape

/-- Escapes of control characters and of the backslash. -/
def control? : Char → Option Nat
  | 'a' => some 7
  | 'b' => some 8
  | 'f' => some 12
  | 'n' => some 10
  | 'r' => some 13
  | 't' => some 9
  | 'v' => some 11
  | '\\' => some 92
  | _ => none

/-- Escapes of character classes. -/
def category? : Char → Option SetItem
  | 'd' => some (.category .digit false)
  | 'D' => some (.category .digit true)
  | 's' => some (.category .blank false)
  | 'S' => some (.category .blank true)
  | 'w' => some (.category .word false)
  | 'W' => some (.category .word true)
  | _ => none

/-- Escapes of places. -/
def anchor? : Char → Option Anchor
  | 'A' => some .textStart
  | 'b' => some .wordEdge
  | 'B' => some .noWordEdge
  | 'Z' => some .textEnd
  | _ => none

def isOctal (c : Char) : Bool := '0' ≤ c && c ≤ '7'

def isDigit (c : Char) : Bool := '0' ≤ c && c ≤ '9'

def isLetter (c : Char) : Bool := ('a' ≤ c && c ≤ 'z') || ('A' ≤ c && c ≤ 'Z')

/-- The value of digits of a base. -/
def value (base : Nat) (cs : List Char) : Nat :=
  Numeral.ofDigits base (cs.filterMap (Numeral.digitIn? base))

/-- The escape as it is written. -/
def written (c : Char) (more : List Char) : String := String.ofList ('\\' :: c :: more)

/-- Exactly `count` hexadecimal digits after the letter `c`. -/
def hexadecimal (c : Char) (count : Nat) : Reader (List Char) := do
  let digits ← Reader.spanUpTo (fun d => (hexValue? d).isSome) count
  if digits.length < count then
    Reader.refuse (.incompleteEscape (written c digits)) (2 + digits.length)
  return digits

/-- A code point of eight hexadecimal digits. -/
def long : Reader Nat := do
  let digits ← hexadecimal 'U' 8
  let v := value 16 digits
  if v < 0x110000 then return v
  else if v < 0x80000000 then Reader.refuse (.badEscape (written 'U' digits)) 10
  else throw .escapeTooLarge

def named : Reader Nat := do
  if !(← Reader.accept '\x7b') then Reader.refuse .missingBrace 0
  let name ← Reader.takeUntil '\x7d' .character
  match CharacterName.find? (String.ofList name) with
  | some c => return c
  | none => Reader.refuse (.undefinedCharacter (String.ofList name)) (name.length + 4)

/-- The octal value of an escape of three digits must fit a byte. -/
def octal (c : Char) (more : List Char) : Reader Nat := do
  let v := value 8 (c :: more)
  if v > 0o377 then Reader.refuse (.octalTooLarge (written c more)) (2 + more.length)
  return v

/-- Escapes that mean the same inside a set and outside: hexadecimal forms, names, and characters that
stand for themselves. -/
def common (c : Char) : Reader Nat := do
  match c with
  | 'x' => return value 16 (← hexadecimal 'x' 2)
  | 'u' => return value 16 (← hexadecimal 'u' 4)
  | 'U' => long
  | 'N' => named
  | _ =>
    if isLetter c || isDigit c then Reader.refuse (.badEscape (written c [])) 2
    else return c.toNat

def inSet (c : Char) : Reader SetItem := do
  match control? c, category? c with
  | some v, _ => return .point v
  | none, some item => return item
  | none, none =>
    if isOctal c then return .point (← octal c (← Reader.spanUpTo isOctal 2))
    else return .point (← common c)

/-- A reference to a group by its number of one or two digits. -/
def reference (c : Char) (more : List Char) : Reader Regex := do
  let group := value 10 (c :: more)
  if group ≤ (← get).widths.length then
    if !(← Reader.isClosed group) then Reader.refuse .openGroup (2 + more.length)
    Reader.refuseInLookbehind group
    return .reference group
  else Reader.refuse (.noSuchGroup group) (1 + more.length)

/-- Digits after a backslash: three octal digits are a character, anything shorter is a reference. -/
def digits (c : Char) : Reader Regex := do
  match ← Reader.spanUpTo isDigit 1 with
  | [d] =>
    if isOctal c && isOctal d then
      match ← Reader.spanUpTo isOctal 1 with
      | [e] => return .point (← octal c [d, e])
      | _ => reference c [d]
    else reference c [d]
  | _ => reference c []

def outside (c : Char) : Reader Regex := do
  match anchor? c, category? c, control? c with
  | some a, _, _ => return .anchor a
  | none, some item, _ => return .set false [item]
  | none, none, some v => return .point v
  | none, none, none =>
    if c = '0' then return .point (value 8 ('0' :: (← Reader.spanUpTo isOctal 2)))
    else if isDigit c then digits c
    else return .point (← common c)

end Escape

end ChainLint.Pattern
