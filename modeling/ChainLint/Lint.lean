import ChainLint.Concrete.Script
import ChainLint.Config.Configuration
import ChainLint.Dispatch
import ChainLint.Files.FileSystem

/-!
# Linting

A linter is a configuration with the rules it selects. A rule runs unless it is set to false; a
deprecated rule overlaps the rules that take its place, and runs only when the configuration names it.
Linting a program gives its diagnostics; a text that did not parse has none, and is said to be unparsed.
-/

namespace ChainLint

/-- Why linting fails. -/
inductive LintError where
  | lowering (error : Concrete.LowerError)
  | chain (error : ChainError)
  deriving Repr, DecidableEq

def LintError.message : LintError → String
  | .lowering error => error.message
  | .chain error => error.message

/-- The outcome for one source. -/
structure LintResult where
  path : String
  /-- The diagnostics; there are none if the source did not parse. -/
  diagnostics? : Option (List Diagnostic)
  deriving Repr

namespace LintResult

def isParsed (r : LintResult) : Bool := r.diagnostics?.isSome

def count (r : LintResult) : Nat := (r.diagnostics?.getD []).length

end LintResult

/-- A configuration with the rules it selects. -/
structure Linter where
  configuration : Configuration
  rules : List (String × Rule)

namespace Linter

/-- Whether a configuration selects a rule. -/
def selects (c : Configuration) (name : String) (rule : Rule) : Bool :=
  (!rule.info.deprecation.isDeprecated || c.ruleNames.contains name) && c.isEnabled name

/-- The rules that a configuration names although there are none of these names. -/
def unknownRules (c : Configuration) (rules : List (String × Rule)) : List String :=
  Text.sorted (c.ruleNames.filter fun name => !(rules.map (·.1)).contains name)

/-- The linter of a configuration; unknown rules are noted. -/
def ofConfiguration (c : Configuration) (rules : List (String × Rule)) : Logged Linter := do
  let unknown := unknownRules c rules
  unless unknown.isEmpty do
    Logged.note .warning .root
      ("Configuration Warning: unknown rules ignored: " ++ ", ".intercalate unknown)
  return ⟨c, rules.filter fun (name, rule) => selects c name rule⟩

/-- The names of the selected rules, in order. -/
def enabledRules (l : Linter) : List String := Text.sorted (l.rules.map (·.1))

/-- Lint a program, if there is one. -/
def lintProgram (l : Linter) (path : String) (program? : Option Node) :
    Attempt LintError LintResult := do
  match program? with
  | none => return ⟨path, none⟩
  | some root =>
    let findings ← (Dispatch.run l.configuration.settings.vocabulary root l.rules
      l.configuration.optionsFor).mapError .chain
    Attempt.note .debug .linting
      (path ++ ": " ++ toString findings.diagnostics.length ++ " diagnostics")
    return ⟨path, some findings.diagnostics⟩

def lintScript (l : Linter) (path : String) (s : Script) : Attempt LintError LintResult := do
  l.lintProgram path (← s.program?.mapError .lowering)

/-- Lint a file. One that cannot be read is noted, and counts as not parsed. -/
def lintFile (l : Linter) (files : FileSystem) (path : Path) : Attempt LintError LintResult := do
  match files.readScript path with
  | .error error =>
    Attempt.note .warning .parsing ("Could not read " ++ path.render ++ ": " ++ error.message path)
    l.lintProgram path.render none
  | .ok s =>
    Attempt.note .debug .parsing ("Parsing " ++ path.render)
    l.lintScript path.render s

end Linter

end ChainLint
