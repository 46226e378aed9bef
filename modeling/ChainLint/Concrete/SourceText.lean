import ChainLint.Text.Utf8

/-!
# Source text in bytes and characters

A parser places its nodes in bytes of the UTF-8 form of a text, the rules in characters. A table has the
character for every byte, and for the end of the text; a text with as many bytes as characters needs no
table. Without a table an offset is its own answer, whatever its value; in the table a negative offset
counts from the end, and one outside it has no character.
-/

namespace ChainLint.Concrete

open Text

/-- A text as bytes, with the characters that its bytes belong to. -/
structure SourceText where
  bytes : Array UInt8
  /-- The character of each byte, where characters and bytes differ in number. -/
  charAt : Option (Array Nat)
  deriving Repr

namespace SourceText

/-- The character of each byte of a text, and of its end. -/
def charTable (cs : List Char) : List Nat :=
  cs.zipIdx.flatMap (fun (c, i) => List.replicate (Utf8.encodeChar c).length i) ++ [cs.length]

/-- The bytes of a text, and their characters if they differ in number. -/
def ofString (s : String) : SourceText :=
  let cs := s.toList
  let bytes := (Utf8.encode cs).toArray
  ⟨bytes, if bytes.size = cs.length then none else some (charTable cs).toArray⟩

/-- An entry of a table, from the front or, with a negative index, from the end. -/
def fromEitherEnd? (table : Array Nat) (index : Int) : Option Nat :=
  let i := if index < 0 then index + table.size else index
  if i < 0 then none else table[i.toNat]?

/-- The character at a byte offset. -/
def offset? (t : SourceText) (byte : Int) : Option Int :=
  match t.charAt with
  | none => some byte
  | some table => (fromEitherEnd? table byte).map Int.ofNat

/-- The text between two byte offsets, as far as it lies inside. -/
def slice (t : SourceText) (start stop : Nat) : Except Utf8.DecodeError (List Char) :=
  Utf8.decode (t.bytes.extract start stop).toList

end SourceText

end ChainLint.Concrete
