import ChainLint.Rule.Message

/-!
# Rules

A rule has a description for people and a visitor for the machine. The visitor is made for one tree; it
has handlers, each of which is told of the steps of the walk that its selector names, and answers with
what it has found. A finding is a diagnostic, which may carry a fix, or a note that a node was visited.
-/

namespace ChainLint

/-! ## Edits -/

/-- Replace the characters of a range of the source by a text. -/
structure Edit where
  span : Span
  text : String
  deriving Repr, DecidableEq

namespace Edit

def replace (n : Node) (text : String) : Edit := ⟨n.span, text⟩

def remove (n : Node) : Edit := ⟨n.span, ""⟩

def insertAt (position : Int) (text : String) : Edit := ⟨⟨position, position⟩, text⟩

def insertBefore (n : Node) (text : String) : Edit := insertAt n.span.start text

def insertAfter (n : Node) (text : String) : Edit := insertAt n.span.stop text

/-- A range that should have bounds has none. -/
inductive RangeError where
  | empty
  deriving Repr, DecidableEq

def RangeError.message : RangeError → String
  | .empty => "tuple index out of range"

/-- Insert a text in front of a range, which is given by its bounds. -/
def insertBeforeRange (bounds : List Int) (text : String) : Except RangeError Edit :=
  match bounds.head? with
  | some start => .ok (insertAt start text)
  | none => .error .empty

/-- Insert a text behind a range, which is given by its bounds. -/
def insertAfterRange (bounds : List Int) (text : String) : Except RangeError Edit :=
  match bounds.getLast? with
  | some stop => .ok (insertAt stop text)
  | none => .error .empty

end Edit

/-- How a rule of a given name repairs a node that it reports. -/
abbrev Fix := String → Node → List Edit

/-! ## Findings -/

/-- A problem that a rule reports. -/
structure Diagnostic where
  ruleId : String
  node : Node
  message : String
  /-- The edits that repair it, if the rule knows how to. -/
  fix? : Option (List Edit)
  deriving Repr

namespace Diagnostic

def line (d : Diagnostic) : Int := d.node.location.line

def column (d : Diagnostic) : Int := d.node.location.column

/-- The edits of a diagnostic; there are none if it has no fix. -/
def edits (d : Diagnostic) : List Edit := d.fix?.getD []

/-- The order of reports: by the start of the node, then by the name of the rule. -/
def before (a b : Diagnostic) : Bool :=
  if a.node.span.start = b.node.span.start then Text.before a.ruleId b.ruleId
  else a.node.span.start < b.node.span.start

end Diagnostic

/-- A note that a rule was told of a node. -/
structure Visit where
  ruleId : String
  selector : String
  span : Span
  deriving Repr, DecidableEq

/-- What a handler answers with. -/
inductive Finding where
  | problem (d : Diagnostic)
  | visit (v : Visit)
  deriving Repr

namespace Finding

def problem? : Finding → Option Diagnostic
  | .problem d => some d
  | .visit _ => none

def visit? : Finding → Option Visit
  | .visit v => some v
  | .problem _ => none

end Finding

/-! ## Visitors -/

/-- What a visitor may look at. -/
structure Context where
  ruleId : String
  vocabulary : Vocabulary
  parents : Parents
  options : List Config.Value

namespace Context

/-- An entry of the first options table. -/
def option? (c : Context) (key : String) : Option Config.Value :=
  match c.options with
  | .table entries :: _ => Config.Table.find? entries key
  | _ => none

/-- Whether a node, if there is one, is what `origin` asks for. -/
def classify (c : Context) (origin : Origin) (n : Node) : Except ChainError Bool :=
  c.vocabulary.classify c.parents origin (some n)

end Context

/-- A handler for the steps that a selector names. -/
structure Handler where
  selector : String
  handle : Node → Except ChainError (List Finding)

/-! ## Rules -/

/-- What the fix of a rule changes. -/
inductive Fixable where
  | code
  | whitespace
  deriving Repr, DecidableEq

def Fixable.name : Fixable → String
  | .code => "code"
  | .whitespace => "whitespace"

/-- The description of a rule. -/
structure RuleInfo where
  description : String
  deprecation : Deprecation
  fixable? : Option Fixable
  /-- The tables that the options of the rule have to fit. -/
  schema : List Config.Value
  deriving Repr

/-- What all rules are: suggestions. -/
def RuleInfo.category : String := "suggestion"

structure Rule where
  info : RuleInfo
  visitor : Context → List Handler

namespace Rule

/-- The handler that is told when a call is left. -/
def onCall (handle : Node → Except ChainError (List Finding)) : List Handler :=
  [⟨"CallExpression:exit", handle⟩]

/-- The handler that is told when a member access is left. -/
def onMember (handle : Node → Except ChainError (List Finding)) : List Handler :=
  [⟨"MemberExpression:exit", handle⟩]

/-- A rule that notes every step that one of its selectors names. -/
def tracing (selectors : List String) : Rule where
  info := ⟨"", .flag false, none, []⟩
  visitor c := selectors.eraseDups.map fun selector =>
    ⟨selector, fun n => .ok [.visit ⟨c.ruleId, selector, n.span⟩]⟩

/-- Write a rule under its name: an earlier rule of the name is replaced. -/
def register (name : String) (rule : Rule) : List (String × Rule) → List (String × Rule)
  | [] => [(name, rule)]
  | (n, r) :: rest => if n = name then (n, rule) :: rest else (n, r) :: register name rule rest

end Rule

end ChainLint
