import ChainLint.Config.Settings

/-!
# Lint configurations

A configuration is a table with two entries of interest: the settings, and a table of rules that sets a
rule to true or false or gives it options. Rules without an entry are enabled.
-/

namespace ChainLint

open Config Text

/-- What a configuration says about one rule. -/
inductive RuleEntry where
  | switch (on : Bool)
  | options (table : Table)
  deriving Repr

/-- A configuration that has been checked. -/
structure Configuration where
  table : Table
  settings : Settings
  rules : List (String × RuleEntry)
  deriving Repr

namespace Configuration

/-! ## Reading -/

/-- A value that can be a key. -/
def keyOf : Value → Except ConfigError Key
  | .null => .ok .null
  | .boolean b => .ok (.boolean b)
  | .integer n => .ok (.integer n)
  | .real x => .ok (.real x)
  | .text s => .ok (.text s)
  | other => .error (.keyNotPlain other.typeName)

/-- The two parts of an entry that is written as a sequence of two: a list, a text of two characters, or
the keys of a table. -/
def entryOf (index : Nat) (entry : Value) : Except ConfigError (Key × Value) := do
  let parts ←
    match entry with
    | .list items => pure items
    | .text s => pure (s.toList.map fun c => .text (String.singleton c))
    | .table entries =>
      pure (entries.map fun e =>
        match e.1 with
        | .text s => .text s
        | .integer n => .integer n
        | .real x => .real x
        | .boolean b => .boolean b
        | .null => .null)
    | _ => throw (.entryNotPair index)
  match parts with
  | [key, value] => return (← keyOf key, value)
  | _ => throw (.entryLength index parts.length)

/-- The entries of a list, the first of which has the given index. -/
def entriesOf : Nat → List Value → Except ConfigError (List (Key × Value))
  | _, [] => .ok []
  | index, entry :: rest => do
    let first ← entryOf index entry
    return first :: (← entriesOf (index + 1) rest)

/-- The table of a document: void documents are empty tables, and a list of entries is a table too. -/
def tableOf (document : Value) : Except ConfigError Table :=
  if document.isVoid then .ok []
  else
    match document with
    | .table entries => .ok entries
    | .list items => (entriesOf 0 items).map Table.ofEntries
    | .text s => (entriesOf 0 (s.toList.map fun c => .text (String.singleton c))).map Table.ofEntries
    | other => .error (.documentNotEntries other.typeName)

/-- Replace the entry of a rule, or add it at the end. -/
def putRule (rule : String) (entry : RuleEntry) :
    List (String × RuleEntry) → List (String × RuleEntry)
  | [] => [(rule, entry)]
  | (r, e) :: rest => if r = rule then (r, entry) :: rest else (r, e) :: putRule rule entry rest

/-- What a value says about a rule. -/
def entryOf? : Value → Option RuleEntry
  | .boolean on => some (.switch on)
  | .table options => some (.options options)
  | _ => none

/-- The entries of the rules table, one by one. -/
def readRules : List (String × RuleEntry) → Table → Except ConfigError (List (String × RuleEntry))
  | rules, [] => .ok rules
  | rules, (rule, value) :: rest =>
    if rule.isSpelled then
      match entryOf? value with
      | some entry => readRules (putRule rule.plain entry rules) rest
      | none => .error (.ruleEntry rule)
    else .error .integerTooLong

/-- The configuration of a document. -/
def ofValue (stack : Stack) (document : Value) : Attempt ConfigError Configuration := do
  let table ← tableOf document
  let settings ←
    match table.find? "settings" with
    | none => Settings.ofValue stack (.table [])
    | some (.table entries) => Settings.ofValue stack (.table entries)
    | some _ => throw .settingsNotTable
  let rules ←
    match table.find? "rules" with
    | none => pure []
    | some (.table entries) => readRules [] entries
    | some _ => throw .rulesNotTable
  return ⟨table, settings, rules⟩

/-! ## Questions -/

def find? (c : Configuration) (rule : String) : Option RuleEntry :=
  (c.rules.find? (·.1 == rule)).map (·.2)

/-- Rules are enabled unless they are set to false. -/
def isEnabled (c : Configuration) (rule : String) : Bool :=
  match c.find? rule with
  | some (.switch false) => false
  | _ => true

/-- The options of a rule: its options table, or nothing. -/
def optionsFor (c : Configuration) (rule : String) : List Value :=
  match c.find? rule with
  | some (.options table) => [.table table]
  | _ => []

def ruleNames (c : Configuration) : List String := c.rules.map (·.1)

end Configuration

end ChainLint
