import ChainLint.Decimal.Binary64
import ChainLint.Sum
import ChainLint.Text.CodePoint

/-!
# Syntax nodes

The expressions that the rules look at. Calls, member accesses, identifiers and literals carry what the
classifier reads; every other construct is kept as an opaque node with the name of its kind. Each node
has an identity, which is unique within its tree: two nodes that look the same at different places are
still two nodes. A node does not know its parent.
-/

namespace ChainLint

open Text Decimal

/-- A range of the source, in characters. -/
structure Span where
  start : Int
  stop : Int
  deriving Repr, DecidableEq

/-- A place in the source: lines count from one, columns from zero. -/
structure Location where
  line : Int
  column : Int
  deriving Repr, DecidableEq

/-- Which node of its tree a node is, and where it stands. -/
structure Site where
  id : Nat
  span : Span
  location : Location
  deriving Repr, DecidableEq

/-- The value of a literal. -/
inductive LiteralValue where
  | text (value : List CodePoint)
  | integer (n : Int)
  | real (x : Binary64)
  | boolean (b : Bool)
  | null
  deriving Repr, DecidableEq

namespace LiteralValue

def isText : LiteralValue → Bool
  | .text _ => true
  | _ => false

def isNumber : LiteralValue → Bool
  | .integer _ | .real _ => true
  | _ => false

/-- The text of a value, if it is one without lone surrogates. -/
def string? : LiteralValue → Option String
  | .text value => CodePoint.toString? value
  | _ => none

end LiteralValue

inductive Node where
  | identifier (site : Site) (name : String)
  | literal (site : Site) (value : LiteralValue)
  | member (site : Site) (object property : Node) (computed : Bool)
  /-- A call. One without a callee occurs only in trees that were put together by hand. -/
  | call (site : Site) (callee : Option Node) (arguments : List Node)
  | other (site : Site) (kind : String) (nodes : List Node)
  deriving Repr

namespace Node

/-- Where the node stands and which one it is. -/
def site : Node → Site
  | .identifier site _ | .literal site _ | .member site .. | .call site .. | .other site .. => site

def id (n : Node) : Nat := n.site.id

def span (n : Node) : Span := n.site.span

def location (n : Node) : Location := n.site.location

/-- The kind of a node, under which rules select it. -/
def kind : Node → String
  | .identifier .. => "Identifier"
  | .literal .. => "Literal"
  | .member .. => "MemberExpression"
  | .call .. => "CallExpression"
  | .other _ kind _ => kind

/-- The children of a node in source order: object and property, callee and arguments, or all parts. -/
def children : Node → List Node
  | .identifier .. | .literal .. => []
  | .member _ object property _ => [object, property]
  | .call _ callee arguments => callee.toList ++ arguments
  | .other _ _ nodes => nodes

def name? : Node → Option String
  | .identifier _ name => some name
  | _ => none

/-- The name in a plain access `object.name`; computed and private keys have none. -/
def propertyName? : Node → Option String
  | .member _ _ property false => property.name?
  | _ => none

/-- The callee of a call, if it is a member access. -/
def memberCallee? : Node → Option Node
  | .call _ (some (.member site object property computed)) _ =>
    some (.member site object property computed)
  | _ => none

def arguments : Node → List Node
  | .call _ _ arguments => arguments
  | _ => []

def object? : Node → Option Node
  | .member _ object _ _ => some object
  | _ => none

def property? : Node → Option Node
  | .member _ _ property _ => some property
  | _ => none

theorem exists_of_memberCallee? {n callee : Node} (h : n.memberCallee? = some callee) :
    ∃ site arguments, n = .call site (some callee) arguments := by
  unfold memberCallee? at h
  split at h
  · obtain rfl := Option.some.inj h
    exact ⟨_, _, rfl⟩
  · cases h

theorem exists_of_propertyName? {n : Node} {text : String} (h : n.propertyName? = some text) :
    ∃ site object key, n = .member site object (.identifier key text) false := by
  unfold propertyName? name? at h
  split at h
  · split at h
    · obtain rfl := Option.some.inj h
      exact ⟨_, _, _, rfl⟩
    · cases h
  · cases h

def isText : Node → Bool
  | .literal _ value => value.isText
  | _ => false

def isNumber : Node → Bool
  | .literal _ value => value.isNumber
  | _ => false

/-! ## Size and induction -/

mutual

/-- The number of nodes of a tree. -/
def size : Node → Nat
  | .identifier .. | .literal .. => 1
  | .member _ object property _ => 1 + (size object + size property)
  | .call _ callee arguments => 1 + (sizeOption callee + sizeList arguments)
  | .other _ _ nodes => 1 + sizeList nodes

def sizeOption : Option Node → Nat
  | none => 0
  | some n => size n

def sizeList : List Node → Nat
  | [] => 0
  | n :: rest => size n + sizeList rest

end

theorem sizeList_eq (ns : List Node) : sizeList ns = sumOver size ns := by
  induction ns with
  | nil => rfl
  | cons n rest ih => simp [sizeList, ih]

/-- A tree has its root and the nodes of the trees below it. -/
theorem size_eq (n : Node) : n.size = 1 + sumOver size n.children := by
  cases n with
  | identifier => rfl
  | literal => rfl
  | member => simp [size, children]
  | call _ callee arguments =>
    cases callee <;> simp [size, sizeOption, children, sizeList_eq]
  | other => simp [size, children, sizeList_eq]

/-- A child is smaller than its parent. -/
theorem size_lt_of_mem {c n : Node} (h : c ∈ n.children) : c.size < n.size := by
  have := le_sumOver_of_mem size h
  rw [size_eq n]
  omega

/-- Induction over trees: a statement that passes from the children of every node to the node holds of
all nodes. -/
theorem induct {P : Node → Prop} (step : ∀ n, (∀ c ∈ n.children, P c) → P n) (n : Node) : P n :=
  step n fun c hc =>
    have := size_lt_of_mem hc
    induct step c
termination_by n.size

end Node

end ChainLint
