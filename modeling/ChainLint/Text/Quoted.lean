import ChainLint.Text.Hex
import ChainLint.Text.PointSet
import ChainLint.Text.Property.Printable

/-!
# Quoted text

How a text is shown inside a message: between single quotes, or between double quotes when it holds a
single quote and no double quote. The quote in use, backslashes, line feeds, carriage returns and tabs
are escaped with a backslash; any other code point that does not show as itself is written in
hexadecimal, in the shortest of the three forms that can hold it.
-/

namespace ChainLint.Text.Quoted

/-- The quote that surrounds a text. -/
def mark (s : List Char) : Char :=
  if s.contains '\'' && !s.contains '"' then '"' else '\''

/-- One character inside the quotes. -/
def escape (quote c : Char) : String :=
  if c = quote ∨ c = '\\' then String.ofList ['\\', c]
  else if c = '\n' then "\\n"
  else if c = '\r' then "\\r"
  else if c = '\t' then "\\t"
  else if Property.printable.mem c.toNat then String.singleton c
  else if c.toNat < 0x100 then "\\x" ++ hexPadded 2 c.toNat
  else if c.toNat < 0x10000 then "\\u" ++ hexPadded 4 c.toNat
  else "\\U" ++ hexPadded 8 c.toNat

/-- The quoted form of a text. -/
def quote (s : String) : String :=
  let q := mark s.toList
  String.singleton q ++ String.join (s.toList.map (escape q)) ++ String.singleton q

end ChainLint.Text.Quoted
