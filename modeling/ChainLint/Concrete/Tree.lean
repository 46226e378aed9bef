import ChainLint.Tree.Listing

/-!
# Concrete syntax trees

What a JavaScript parser makes of a text: the named nodes, each with its kind, the field under which its
parent holds it, and its place in bytes. Positions count from zero. The tree comes from outside; nothing
is assumed about it here, so that a field that should be there may be missing.
-/

namespace ChainLint.Concrete

/-- What is known of a concrete node besides its children. -/
structure Label where
  id : Nat
  field? : Option String
  kind : String
  startByte : Nat
  endByte : Nat
  row : Nat
  byteColumn : Nat
  deriving Repr, DecidableEq

inductive Tree where
  | node (label : Label) (children : List Tree)
  deriving Repr

namespace Tree

def label : Tree → Label
  | .node label _ => label

/-- The trees below the root. -/
def children : Tree → List Tree
  | .node _ children => children

def kind (t : Tree) : String := t.label.kind

/-- The first child in a field. -/
def field? (t : Tree) (name : String) : Option Tree :=
  t.children.find? (fun c => c.label.field? == some name)

/-- The children that are no comments. -/
def parts (t : Tree) : List Tree := t.children.filter (fun c => c.kind != "comment")

def ofListing? (entries : List (Option Nat × Label)) : Option Tree :=
  Listing.assemble (fun _ label children => some (.node label children)) entries

/-! ## Size -/

mutual

/-- The number of nodes of a tree. -/
def size : Tree → Nat
  | .node _ children => 1 + sizeList children

def sizeList : List Tree → Nat
  | [] => 0
  | t :: rest => size t + sizeList rest

end

theorem sizeList_eq (ts : List Tree) : sizeList ts = sumOver size ts := by
  induction ts with
  | nil => rfl
  | cons t rest ih => simp [sizeList, ih]

theorem size_eq (t : Tree) : t.size = 1 + sumOver size t.children := by
  cases t with
  | node label children => simp [size, Tree.children, sizeList_eq]

/-- A child is smaller than its parent. -/
theorem size_lt_of_mem {c t : Tree} (h : c ∈ t.children) : c.size < t.size := by
  have := le_sumOver_of_mem size h
  rw [size_eq t]
  omega

end Tree

end ChainLint.Concrete
