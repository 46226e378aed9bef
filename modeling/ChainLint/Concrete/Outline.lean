import ChainLint.Concrete.Tree

/-!
# Outlines

The concrete tree of a script as text, the form in which a parser hands it over: one line for each named
node in pre-order, with the position of the parent, the field, the kind, the two byte offsets, the row
and the byte column between tabs. A dash stands for a missing parent or field.
-/

namespace ChainLint.Concrete.Outline

/-- The mark of something missing. -/
def absent : String := "-"

/-- A part of a line that may be missing. -/
def optional {α : Type} (read : String → Option α) (part : String) : Option (Option α) :=
  if part = absent then some none else (read part).map some

/-- The node of a line; its number among the lines is its identity. -/
def readLine (id : Nat) (line : String) : Option (Option Nat × Label) :=
  match line.splitOn "\t" with
  | [parent, field, kind, startByte, endByte, row, column] => do
    let parent ← optional String.toNat? parent
    let field ← optional some field
    return (parent,
      ⟨id, field, kind, ← startByte.toNat?, ← endByte.toNat?, ← row.toNat?, ← column.toNat?⟩)
  | _ => none

def read (text : String) : Option Tree := do
  let lines := (text.splitOn "\n").filter (· != "")
  let labels ← lines.zipIdx.mapM fun (line, i) => readLine i line
  Tree.ofListing? labels

end ChainLint.Concrete.Outline
