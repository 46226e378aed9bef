import ChainLint.Rule.Basic

/-!
# Families of rules

Rules that forbid methods or properties by name. They differ in what the receiver has to be: a
collection, the constructor whose methods are the utilities, or either of them.
-/

namespace ChainLint

open Config

/-- How a rule of a family is built. -/
structure RuleOptions where
  fixable? : Option Fixable := none
  fix? : Option Fix := none
  deprecation : Deprecation := .flag false
  /-- Whether the rule can be told to leave getters or setters alone. -/
  splitsUses : Bool := false

namespace Rule

/-! ## Options for getters and setters -/

/-- The option that allows one of the uses of a method. -/
def allowKey : String := "allowGetOrSet"

/-- What the option may say. -/
def allowValues : List String := ["none", "get", "set"]

/-- A table with a single possible entry and its constraint. -/
def entrySchema (key : String) (constraint : Table) : Value :=
  .table
    [(.text "type", .text "object"),
      (.text "properties", .table [(.text key, .table constraint)]),
      (.text "additionalProperties", .boolean false)]

/-- The table that holds the option for getters and setters. -/
def allowSchema : Value := entrySchema allowKey [(.text "enum", .list (allowValues.map .text))]

/-- The paragraph on the option for getters and setters. -/
def allowHelp : String :=
  "\n\nUsing this method only as a getter or a setter can be allowed using the " ++
    "`allowGetOrSet` option:\n" ++
    "* `\"none\"` (default) the method can't be used at all\n" ++
    "* `\"get\"` the method can only be used as a getter i.e. with no arguments\n" ++
    "* `\"set\"` the method can only be used as a setter i.e. with arguments"

/-- Whether the options allow a call: getters have no arguments, setters have some. -/
def allows (c : Context) (call : Node) : Bool :=
  match c.option? allowKey with
  | some (.text "get") => call.arguments.isEmpty
  | some (.text "set") => !call.arguments.isEmpty
  | _ => false

/-! ## Reports -/

/-- The finding for a node that uses a forbidden name. -/
def reportUse (c : Context) (n : Node) (message : Option Message) (name : String) (origin : Origin)
    (o : RuleOptions) : Finding :=
  .problem
    ⟨c.ruleId, n, Message.report message n name origin o.deprecation,
      o.fix?.map fun fix => fix c.ruleId n⟩

/-- The callee and the method name of a call of one of the named methods. -/
def calledMethod? (names : List String) (call : Node) : Option (Node × String) := do
  let callee ← call.memberCallee?
  let name ← callee.propertyName?
  if names.contains name then some (callee, name) else none

/-- Report a node if it is what `origin` asks for. -/
def reportIf (found : Except ChainError Bool) (finding : Finding) :
    Except ChainError (List Finding) := do
  return if ← found then [finding] else []

/-! ## Descriptions -/

/-- A word in the number that a list of names asks for. -/
def plural (names : List String) (singular several : String) : String :=
  if names.length > 1 then several else singular

/-- Links to several names. -/
def links (link : String → String) (names : List String) : String :=
  "/".intercalate (names.map link)

def infoOf (description : String) (o : RuleOptions) (schema : List Value) : RuleInfo :=
  ⟨description, o.deprecation, o.fixable?, schema⟩

/-! ## The families -/

/-- Forbid calls of methods on collections. A call on the constructor is one of a utility instead. -/
def collectionMethod (names : List String) (message : Option Message) (o : RuleOptions) : Rule where
  info :=
    infoOf
      ("Disallows the " ++ links Link.collection names ++ plural names " method." " methods." ++
        Message.suffix message ++ (if o.splitsUses then allowHelp else ""))
      o (if o.splitsUses then [allowSchema] else [])
  visitor c := onCall fun call =>
    match calledMethod? names call with
    | none => .ok []
    | some (callee, name) =>
      if callee.object?.any c.vocabulary.isConstructor then .ok []
      else if allows c call then .ok []
      else reportIf (c.classify .collection callee) (reportUse c call message name .collection o)

/-- Forbid reading a property of collections. A property that is called is a method. -/
def collectionProperty (name : String) (message : Option Message) (o : RuleOptions) : Rule where
  info :=
    infoOf ("Disallows the " ++ Link.collection name ++ " property." ++ Message.suffix message) o []
  visitor c := onMember fun n =>
    match n.object? with
    | none => .ok []
    | some object =>
      if n.propertyName? ≠ some name then .ok []
      else if c.parents.isCallee n then .ok []
      else reportIf (c.classify .collection object) (reportUse c n message name .collection o)

/-- Forbid calls of utilities. -/
def utilityMethod (names : List String) (message : Option Message) (o : RuleOptions) : Rule where
  info :=
    infoOf
      ("Disallows the " ++ links Link.utility names ++ plural names " utility." " utilities." ++
        Message.suffix message)
      o []
  visitor c := onCall fun call =>
    match calledMethod? names call with
    | none => .ok []
    | some (callee, name) =>
      match callee.object? with
      | none => .ok []
      | some object =>
        reportIf (c.classify .utility object) (reportUse c call message name .utility o)

/-- Forbid reading a property of the constructor. -/
def utilityProperty (name : String) (message : Option Message) (o : RuleOptions) : Rule where
  info :=
    infoOf ("Disallows the " ++ Link.utility name ++ " property." ++ Message.suffix message) o []
  visitor c := onMember fun n =>
    match n.object? with
    | none => .ok []
    | some object =>
      if n.propertyName? ≠ some name then .ok []
      else reportIf (c.classify .utility object) (reportUse c n message name .utility o)

/-- Forbid calls of methods that exist both on collections and as utilities. -/
def collectionOrUtilityMethod (names : List String) (message : Option Message) (o : RuleOptions) :
    Rule where
  info :=
    infoOf
      ("Disallows the " ++ links Link.collection names ++ plural names " method" " methods" ++
        " and " ++ links Link.utility names ++ plural names " utility." " utilities." ++
        Message.suffix message)
      o []
  visitor c := onCall fun call =>
    match calledMethod? names call with
    | none => .ok []
    | some (callee, name) =>
      reportIf (c.classify .either callee) (reportUse c call message name .either o)

end Rule

end ChainLint
