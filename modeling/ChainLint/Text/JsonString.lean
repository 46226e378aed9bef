import ChainLint.Text.Hex

/-!
# JSON string literals in ASCII

The literal of a text between double quotes: quotes, backslashes and the controls with a short escape
get it, every other code point outside the visible ASCII range is written as a four digit escape, and a
code point past U+FFFF as the escapes of its two UTF-16 halves.
-/

namespace ChainLint.Text.JsonString

/-- A four digit escape. -/
def unitEscape (unit : Nat) : List Char := '\\' :: 'u' :: (hexPadded 4 unit).toList

/-- The UTF-16 halves of a code point past U+FFFF. -/
def halves (n : Nat) : Nat × Nat :=
  let v := n - 0x10000
  (0xd800 + v / 0x400, 0xdc00 + v % 0x400)

/-- The character after the backslash in a short escape. -/
def shortEscape? (c : Char) : Option Char :=
  if c = '"' then some '"'
  else if c = '\\' then some '\\'
  else if c = '\n' then some 'n'
  else if c = '\r' then some 'r'
  else if c = '\t' then some 't'
  else if c.toNat = 0x0c then some 'f'
  else if c.toNat = 0x08 then some 'b'
  else none

def encodeChar (c : Char) : List Char :=
  match shortEscape? c with
  | some e => ['\\', e]
  | none =>
    if ' ' ≤ c ∧ c ≤ '~' then [c]
    else if c.toNat < 0x10000 then unitEscape c.toNat
    else unitEscape (halves c.toNat).1 ++ unitEscape (halves c.toNat).2

def body (cs : List Char) : List Char := cs.flatMap encodeChar

/-- The literal of a text, quotes included. -/
def encode (s : String) : String := String.ofList ('"' :: body s.toList ++ ['"'])

end ChainLint.Text.JsonString
