import ChainLint.Chain.Methods
import ChainLint.Config.Settings
import ChainLint.Tree.Parents

/-!
# Chains

Whether a chain of calls and member accesses evaluates to a collection. The chain is peeled from its
outermost node inward: a call leads to its callee, a member access that is called leads to its object,
until a name decides, or a layer that is known not to return a collection. Every other construct ends
the chain without one.
-/

namespace ChainLint

/-! ## Errors and origins -/

/-- Why a chain cannot be classified. -/
inductive ChainError where
  /-- The chain ended in a call without a callee. -/
  | exhausted
  deriving Repr, DecidableEq

def ChainError.message : ChainError → String
  | .exhausted => "Invalid node: chain walk exhausted"

/-- What a chain has to be. -/
inductive Origin where
  | collection
  /-- The constructor itself, whose methods are the utilities. -/
  | utility
  | either
  deriving Repr, DecidableEq

namespace Origin

def name : Origin → String
  | .collection => "collection"
  | .utility => "util"
  | .either => "collection-util"

def all : List Origin := [.collection, .utility, .either]

def ofName? (name : String) : Option Origin := all.find? (·.name == name)

/-- The complaint about a name that no origin has. -/
def unknownMessage (name : String) : String :=
  Text.Quoted.quote name ++ " is not a valid ClassifierMode"

end Origin

namespace Vocabulary

/-! ## Names -/

/-- Whether a node is an identifier that names the constructor. -/
def isConstructor (v : Vocabulary) (n : Node) : Bool :=
  match n.name? with
  | some name => v.isAlias name
  | none => false

/-! ## Calls -/

/-- The method that a member access names: a plain property, or a text as computed key. -/
def methodName? (callee : Node) : Option String :=
  match callee with
  | .member _ _ (.identifier _ name) false => some name
  | .member _ _ (.literal _ value) true => value.string?
  | _ => none

def isObjectLiteral (n : Node) : Bool := n.kind == "ObjectExpression"

def isFunction (n : Node) : Bool :=
  n.kind == "FunctionExpression" || n.kind == "ArrowFunctionExpression"

/-- Whether there are no arguments, or just one that passes a test. -/
def atMostOne (test : Node → Bool) : List Node → Bool
  | [] => true
  | [argument] => test argument
  | _ => false

/-- Whether a method of a collection, called with these arguments, returns no collection. Unknown methods
count as such, so that nothing is reported by mistake. -/
def leavesCollection (v : Vocabulary) (method : String) (arguments : List Node) : Bool :=
  let plugin := v.plugin? method
  Methods.neverCollection.contains method || plugin == some .never ||
  ((Methods.accessors.contains method || plugin == some .accessor) && arguments.isEmpty) ||
  ((Methods.valueAccessors.contains method || plugin == some .valueAccessor) &&
    atMostOne (!isObjectLiteral ·) arguments) ||
  (Methods.sizing.contains method && atMostOne (fun a => !a.isNumber && !isFunction a) arguments) ||
  (method == Methods.queue && atMostOne Node.isText arguments) ||
  (!Methods.known.contains method && plugin == none)

/-- Whether a call is known not to return a collection. -/
def returnsOther (v : Vocabulary) (callee : Option Node) (arguments : List Node) : Bool :=
  match callee with
  | some (.member site object property computed) =>
    match methodName? (.member site object property computed) with
    | none => true
    | some method => v.isConstructor object || v.leavesCollection method arguments
  | _ => false

/-! ## Peeling -/

mutual

/-- Whether a node evaluates to a collection. -/
def peel (v : Vocabulary) (p : Parents) : Node → Except ChainError Bool
  | .call _ callee arguments =>
    if v.returnsOther callee arguments then .ok false else v.peelOption p callee
  | .member site object property computed =>
    let whole := Node.member site object property computed
    if p.isCallee whole then v.peel p object
    else
      match whole.propertyName? with
      | some name => .ok (v.isVariable name)
      | none => .ok false
  | .identifier site name =>
    if p.isCallee (.identifier site name) then .ok (v.isAlias name)
    else .ok (v.isVariable name || v.isAlias name)
  | .literal .. | .other .. => .ok false

/-- Whether a node evaluates to a collection, if there is one. -/
def peelOption (v : Vocabulary) (p : Parents) : Option Node → Except ChainError Bool
  | none => .error .exhausted
  | some n => v.peel p n

end

/-- Whether a node is what `origin` asks for. -/
def classify (v : Vocabulary) (p : Parents) (origin : Origin) (n : Option Node) :
    Except ChainError Bool :=
  match origin with
  | .collection => v.peelOption p n
  | .utility => .ok (n.any v.isConstructor)
  | .either => if n.any v.isConstructor then .ok true else v.peelOption p n

end Vocabulary

end ChainLint
