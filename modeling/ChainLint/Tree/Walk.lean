import ChainLint.Tree.Node

/-!
# Walking a tree

The steps of a depth-first walk: a node is entered, then its children are walked from left to right, then
it is left. The walk keeps a stack of the steps still to take instead of recursing, so that the depth of
a tree is not limited.
-/

namespace ChainLint

/-- A step of a walk. -/
inductive Step where
  | enter (n : Node)
  | leave (n : Node)
  deriving Repr

namespace Step

def node : Step → Node
  | .enter n | .leave n => n

/-- What a rule writes to be told of a step: the kind of the node, with a mark when it is left. -/
def selector : Step → String
  | .enter n => n.kind
  | .leave n => n.kind ++ ":exit"

/-- A bound on the steps that a pending step leads to. -/
def weight : Step → Nat
  | .enter n => 2 * n.size
  | .leave _ => 1

end Step

theorem sum_weight_enter (ns : List Node) :
    sumOver Step.weight (ns.map .enter) = 2 * sumOver Node.size ns := by
  induction ns with
  | nil => rfl
  | cons n rest ih =>
    rw [List.map_cons, sumOver_cons, sumOver_cons, ih, Step.weight]
    omega

namespace Node

/-- Take the steps on the stack, and those they lead to. -/
def walkFrom : List Step → List Step
  | [] => []
  | .leave n :: rest => .leave n :: walkFrom rest
  | .enter n :: rest => .enter n :: walkFrom (n.children.map .enter ++ .leave n :: rest)
termination_by stack => sumOver Step.weight stack
decreasing_by
  · simp [Step.weight]
  · have h := n.size_eq
    have e := sum_weight_enter n.children
    simp only [sumOver_append, sumOver_cons, e, Step.weight]
    omega

def walk (root : Node) : List Step := walkFrom [.enter root]

/-- The nodes of a tree, each before its children. -/
def nodes (root : Node) : List Node :=
  root.walk.filterMap fun
    | .enter n => some n
    | .leave _ => none

end Node

end ChainLint
