import ChainLint.Concrete.LiteralText
import ChainLint.Concrete.SourceText
import ChainLint.Concrete.Tree

/-!
# From concrete trees to syntax nodes

A concrete tree becomes a tree of syntax nodes: parentheses around one expression and comments disappear,
argument lists are spliced into their calls, and kinds that no rule looks into become opaque nodes. The
work is done with two stacks, so that the depth of a tree is not limited: one holds the trees to be
entered and the nodes to be built once their operands are there, the other holds the finished nodes.
-/

namespace ChainLint.Concrete

open Text

/-- Why a tree cannot be lowered. -/
inductive LowerError where
  /-- A field that the construct needs is not there. -/
  | partMissing
  /-- A byte offset lies outside the text. -/
  | offsetOutside
  /-- The bytes of a node are no text. -/
  | notText (error : Utf8.DecodeError)
  /-- The number of an escape sequence is out of bounds. -/
  | escapeTooLarge
  deriving Repr, DecidableEq

def LowerError.message : LowerError → String
  | .partMissing => "'NoneType' object has no attribute 'type'"
  | .offsetOutside => "list index out of range"
  | .notText error => error.message
  | .escapeTooLarge => "escape out of bounds"

/-! ## Roles -/

/-- How a concrete node is lowered. -/
inductive Role where
  | call
  | member
  | subscript
  | parentheses
  | name
  | text
  | number
  | truth (b : Bool)
  | null
  | regex
  /-- An opaque construct, with the kind that it gets. -/
  | construct (kind : String)
  deriving Repr, DecidableEq

namespace Role

def names : List String :=
  ["identifier", "property_identifier", "shorthand_property_identifier", "statement_identifier",
    "undefined"]

/-- The kinds of constructs that have another name among syntax nodes. -/
def renamed : List (String × String) :=
  [("program", "Program"),
    ("object", "ObjectExpression"),
    ("pair", "Property"),
    ("array", "ArrayExpression"),
    ("function", "FunctionExpression"),
    ("function_expression", "FunctionExpression"),
    ("arrow_function", "ArrowFunctionExpression"),
    ("this", "ThisExpression"),
    ("new_expression", "NewExpression"),
    ("template_string", "TemplateLiteral"),
    ("private_property_identifier", "PrivateIdentifier"),
    ("expression_statement", "ExpressionStatement"),
    ("variable_declarator", "VariableDeclarator"),
    ("assignment_expression", "AssignmentExpression"),
    ("spread_element", "SpreadElement")]

def ofKind (kind : String) : Role :=
  if kind = "call_expression" then .call
  else if kind = "member_expression" then .member
  else if kind = "subscript_expression" then .subscript
  else if kind = "parenthesized_expression" then .parentheses
  else if names.contains kind then .name
  else if kind = "string" then .text
  else if kind = "number" then .number
  else if kind = "true" then .truth true
  else if kind = "false" then .truth false
  else if kind = "null" then .null
  else if kind = "regex" then .regex
  else .construct ((renamed.lookup kind).getD kind)

end Role

namespace Tree

def role (t : Tree) : Role := .ofKind t.kind

/-- The arguments of a call. The text of a tagged template is the one argument of its tag. -/
def callArguments (t : Tree) : List Tree :=
  match t.field? "arguments" with
  | none => []
  | some list => if list.kind = "arguments" then list.parts else [list]

/-- The trees that become the children of the node, in order; a needed field may be missing. -/
def operands (t : Tree) : List (Option Tree) :=
  match t.role with
  | .call => t.field? "function" :: t.callArguments.map some
  | .member => [t.field? "object", t.field? "property"]
  | .subscript => [t.field? "object", t.field? "index"]
  | .name | .text | .number | .truth _ | .null | .regex => []
  | .parentheses | .construct _ => t.parts.map some

end Tree

/-! ## One node -/

namespace SourceText

/-- A position that must lie inside the text. -/
def offset (s : SourceText) (byte : Int) : Except LowerError Int :=
  match s.offset? byte with
  | some position => .ok position
  | none => .error .offsetOutside

def textOf (s : SourceText) (l : Label) : Except LowerError (List Char) :=
  (s.slice l.startByte l.endByte).mapError .notText

/-- Where the syntax node of a concrete node stands. Lines count from one, and a column is the distance
from the first character of the line. -/
def site (s : SourceText) (l : Label) : Except LowerError Site := do
  let start ← s.offset l.startByte
  let stop ← s.offset l.endByte
  let lineStart ← s.offset ((l.startByte : Int) - l.byteColumn)
  return ⟨l.id, ⟨start, stop⟩, ⟨(l.row : Int) + 1, start - lineStart⟩⟩

def fragment (s : SourceText) (part : Tree) : Except LowerError Fragment := do
  let text ← s.textOf part.label
  return if part.kind = "escape_sequence" then .escape text else .plain text

def fragmentPoints (s : SourceText) (part : Tree) : Except LowerError (List CodePoint) := do
  match (← s.fragment part).points? with
  | some points => return points
  | none => throw .escapeTooLarge

/-- The value of a string literal: its parts in a row. -/
def stringValue (s : SourceText) (parts : List Tree) : Except LowerError (List CodePoint) := do
  return (← parts.mapM s.fragmentPoints).flatten

/-- The syntax node of a concrete tree whose operands have been lowered. -/
def build (s : SourceText) (t : Tree) (operands : List Node) : Except LowerError Node :=
  match t.role, operands with
  | .parentheses, [inner] => .ok inner
  | role, operands => do
    let site ← s.site t.label
    match role, operands with
    | .call, callee :: arguments => return .call site (some callee) arguments
    | .call, [] => throw .partMissing
    | .member, [object, property] => return .member site object property false
    | .subscript, [object, index] => return .member site object index true
    | .member, _ | .subscript, _ => throw .partMissing
    | .name, _ => return .identifier site (String.ofList (← s.textOf t.label))
    | .text, _ => return .literal site (.text (← s.stringValue t.children))
    | .number, _ => return .literal site (NumberText.value (← s.textOf t.label))
    | .truth b, _ => return .literal site (.boolean b)
    | .null, _ => return .literal site .null
    | .regex, _ => return .literal site (.text (EscapeSequence.plain (← s.textOf t.label)))
    | .parentheses, _ => return .other site t.kind operands
    | .construct kind, _ => return .other site kind operands

end SourceText

/-! ## All nodes -/

/-- A piece of pending work. -/
inductive Task where
  /-- Lower a tree; where a needed part is missing there is none. -/
  | enter (t : Option Tree)
  /-- Build the node of a tree whose operands, this many of them, are the newest finished nodes. -/
  | build (t : Tree) (count : Nat)
  deriving Repr

namespace Tree

mutual

/-- A bound on the work that a tree leads to. -/
def weight : Tree → Nat
  | .node _ children => 4 + 2 * weightList children

def weightList : List Tree → Nat
  | [] => 0
  | t :: rest => weight t + weightList rest

end

theorem weightList_eq (ts : List Tree) : weightList ts = sumOver weight ts := by
  induction ts with
  | nil => rfl
  | cons t rest ih => simp [weightList, ih]

theorem weight_eq (t : Tree) : t.weight = 4 + 2 * sumOver weight t.children := by
  cases t with
  | node label children => rw [weight, weightList_eq, Tree.children]

theorem weight_field?_le {t c : Tree} {name : String} (h : t.field? name = some c) :
    c.weight ≤ sumOver weight t.children :=
  le_sumOver_of_mem weight (List.mem_of_find?_eq_some h)

theorem sumOver_callArguments_le (t : Tree) :
    sumOver weight t.callArguments ≤ sumOver weight t.children := by
  unfold callArguments
  split
  · simp
  · rename_i list h
    have hle := weight_field?_le h
    split
    · have := sumOver_filter_le weight (fun c => c.kind != "comment") list.children
      have := weight_eq list
      simp only [parts]
      omega
    · simpa using hle

end Tree

namespace Task

/-- A bound on the steps that a task leads to. -/
def weight : Task → Nat
  | .enter none => 1
  | .enter (some t) => t.weight
  | .build .. => 1

theorem sum_weight_enter (ts : List Tree) :
    sumOver (fun t => weight (.enter t)) (ts.map some) = sumOver Tree.weight ts :=
  sumOver_map ..

theorem weight_field? (t : Tree) (name : String) :
    weight (.enter (t.field? name)) ≤ 1 + sumOver Tree.weight t.children := by
  cases h : t.field? name with
  | none => simp [weight]
  | some c =>
    have := Tree.weight_field?_le h
    simp only [weight]
    omega

/-- Entering a tree leaves less work than the tree itself was. -/
theorem sum_weight_operands (t : Tree) :
    sumOver (fun o => weight (.enter o)) t.operands + 1 < t.weight := by
  have hw := t.weight_eq
  have hp := sumOver_filter_le Tree.weight (fun c => c.kind != "comment") t.children
  have ha := t.sumOver_callArguments_le
  unfold Tree.operands
  split
  · have h := weight_field? t "function"
    simp only [sumOver_cons, sum_weight_enter]
    omega
  · have h := weight_field? t "object"
    have h' := weight_field? t "property"
    simp only [sumOver_cons, sumOver_nil]
    omega
  · have h := weight_field? t "object"
    have h' := weight_field? t "index"
    simp only [sumOver_cons, sumOver_nil]
    omega
  all_goals
    simp only [sumOver_nil, sum_weight_enter, Tree.parts]
    omega

end Task

namespace SourceText

/-- Do the pending work; the newest finished node comes first. -/
def run (s : SourceText) (pending : List Task) (done : List Node) : Except LowerError (List Node) :=
  match pending with
  | [] => .ok done
  | .enter none :: _ => .error .partMissing
  | .enter (some t) :: rest =>
    s.run (t.operands.map .enter ++ .build t t.operands.length :: rest) done
  | .build t count :: rest =>
    match s.build t (done.take count).reverse with
    | .ok n => s.run rest (n :: done.drop count)
    | .error e => .error e
termination_by sumOver Task.weight pending
decreasing_by
  · have h := Task.sum_weight_operands t
    simp only [sumOver_append, sumOver_map, sumOver_cons, Task.weight] at *
    omega
  · simp [Task.weight]

/-- The syntax nodes of a concrete tree of the text. -/
def lower (s : SourceText) (t : Tree) : Except LowerError Node :=
  match s.run [.enter (some t)] [] with
  | .ok (n :: _) => .ok n
  | .ok [] => .error .partMissing
  | .error e => .error e

end SourceText

end ChainLint.Concrete
