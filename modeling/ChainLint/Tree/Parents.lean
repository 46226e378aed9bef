import Std.Data.HashMap
import ChainLint.Tree.Node

/-!
# Parents

The parents of all nodes of a tree, looked up by identity. The table is filled in one pass over the tree
with a stack of the nodes whose children are still to be entered; every node but the root is entered
once, when its parent is taken from the stack.
-/

namespace ChainLint

/-- The parents of the nodes of a tree. -/
structure Parents where
  table : Std.HashMap Nat Node

namespace Parents

def empty : Parents := ⟨∅⟩

/-- Enter a node as the parent of each of its children. -/
def enterChildren (parent : Node) (table : Std.HashMap Nat Node) : Std.HashMap Nat Node :=
  parent.children.foldl (fun t child => t.insert child.id parent) table

theorem sum_size_push (n : Node) (stack : List Node) :
    sumOver Node.size (n.children.reverse ++ stack) < sumOver Node.size (n :: stack) := by
  have h := n.size_eq
  simp only [sumOver_append, sumOver_reverse, sumOver_cons]
  omega

/-- Take nodes from the stack, last pushed first, until it is empty. -/
def fill (stack : List Node) (table : Std.HashMap Nat Node) : Std.HashMap Nat Node :=
  match stack with
  | [] => table
  | n :: rest => fill (n.children.reverse ++ rest) (enterChildren n table)
termination_by sumOver Node.size stack
decreasing_by exact sum_size_push n rest

/-- The parents of the nodes of a tree. -/
def ofRoot (root : Node) : Parents := ⟨fill [root] ∅⟩

def parent? (p : Parents) (n : Node) : Option Node := p.table[n.id]?

/-- Whether a node is the callee of a call. -/
def isCallee (p : Parents) (n : Node) : Bool :=
  match p.parent? n with
  | some (.call _ (some callee) _) => callee.id == n.id
  | _ => false

def size (p : Parents) : Nat := p.table.size

end Parents

end ChainLint
