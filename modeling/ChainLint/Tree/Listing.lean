import ChainLint.Tree.Node

/-!
# Listings of trees

A tree written as a list: its nodes in pre-order, each with the position of its parent. The root comes
first and has no parent. `assemble` reads a listing from its end, so that all children of a node are
ready when the node itself is reached; `Node.listing` writes one.
-/

namespace ChainLint

namespace Listing

/-- The subtrees that wait for each position of a listing to take them up. -/
abbrev Waiting (β : Type) := Array (List β)

/-- Hand a finished subtree to its parent. -/
def handUp {β : Type} (parent : Option Nat) (tree : β) (waiting : Waiting β) : Waiting β :=
  match parent with
  | some p => waiting.modify p (tree :: ·)
  | none => waiting

/-- Make the tree of one entry from the subtrees that wait for it. -/
def finish {α β : Type} (make : Nat → α → List β → Option β) (entry : (Option Nat × α) × Nat)
    (waiting : Waiting β) : Option (Waiting β × β) := do
  let ((parent, label), position) := entry
  let tree ← make position label ((waiting[position]?).getD [])
  return (handUp parent tree waiting, tree)

/-- The tree of a listing, if `make` accepts the children of every entry. -/
def assemble {α β : Type} (make : Nat → α → List β → Option β) (entries : List (Option Nat × α)) :
    Option β :=
  let start : Option (Waiting β × Option β) :=
    some ((List.replicate entries.length []).toArray, none)
  let last := entries.zipIdx.foldr (fun entry state => do
    let (waiting, _) ← state
    let (waiting, tree) ← finish make entry waiting
    return (waiting, some tree)) start
  last.bind (·.2)

end Listing

/-! ## Syntax nodes -/

/-- What a listing says of one syntax node besides its place and its children. -/
inductive NodeForm where
  | identifier (name : String)
  | literal (value : LiteralValue)
  | member (computed : Bool)
  | call
  | other (kind : String)
  deriving Repr, DecidableEq

namespace NodeForm

/-- The node of a form with the given children: a member access has exactly two, and the first child of
a call is its callee. -/
def build? (site : Site) (form : NodeForm) (children : List Node) : Option Node :=
  match form, children with
  | .identifier name, _ => some (.identifier site name)
  | .literal value, _ => some (.literal site value)
  | .member computed, [object, property] => some (.member site object property computed)
  | .member _, _ => none
  | .call, [] => some (.call site none [])
  | .call, callee :: arguments => some (.call site (some callee) arguments)
  | .other kind, nodes => some (.other site kind nodes)

end NodeForm

/-- An entry of a listing of syntax nodes. -/
structure NodeEntry where
  form : NodeForm
  span : Span
  location : Location
  deriving Repr, DecidableEq

namespace Node

def form : Node → NodeForm
  | .identifier _ name => .identifier name
  | .literal _ value => .literal value
  | .member _ _ _ computed => .member computed
  | .call .. => .call
  | .other _ kind _ => .other kind

/-- The tree of a listing; a node's position in the listing is its identity. -/
def ofListing? (entries : List (Option Nat × NodeEntry)) : Option Node :=
  Listing.assemble (fun position entry children =>
    entry.form.build? ⟨position, entry.span, entry.location⟩ children) entries

theorem sum_size_below (n : Node) (p : Nat) (stack : List (Option Nat × Node)) :
    sumOver (·.2.size) (n.children.map (some p, ·) ++ stack) < n.size + sumOver (·.2.size) stack := by
  have h : n.size = 1 + sumOver (fun c => c.size) n.children := n.size_eq
  simp only [sumOver_append, sumOver_map]
  omega

/-- List the trees on the stack, which hang below the given positions, from a position on. -/
def listFrom (position : Nat) (stack : List (Option Nat × Node)) : List (Option Nat × Node) :=
  match stack with
  | [] => []
  | (parent, n) :: rest =>
    (parent, n) :: listFrom (position + 1) (n.children.map (some position, ·) ++ rest)
termination_by sumOver (·.2.size) stack
decreasing_by exact sum_size_below n position rest

/-- The nodes of a tree in pre-order, each with the position of its parent. -/
def listing (root : Node) : List (Option Nat × Node) := listFrom 0 [(none, root)]

end Node

end ChainLint
