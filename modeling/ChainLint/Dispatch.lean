import ChainLint.Rule.Basic
import ChainLint.Tree.Walk
import ChainLint.Log

/-!
# Running rules

All rules run over a tree in one walk. At every step the handlers that the step selects are told of it,
rule by rule in the order in which the rules were registered. The diagnostics are sorted by position and
rule, and stay in the order of the walk where these agree.
-/

namespace ChainLint

/-- The options of the rules, by name. -/
abbrev OptionsTable := String → List Config.Value

/-- What a run has found. -/
structure Findings where
  diagnostics : List Diagnostic
  visits : List Visit
  deriving Repr

namespace Dispatch

/-- The context in which a rule runs. -/
def contextOf (v : Vocabulary) (p : Parents) (options : OptionsTable) (rule : String) : Context :=
  ⟨rule, v, p, options rule⟩

/-- The handlers of all rules, in the order of registration. -/
def handlers (v : Vocabulary) (p : Parents) (options : OptionsTable) (rules : List (String × Rule)) :
    List Handler :=
  rules.flatMap fun (name, rule) => rule.visitor (contextOf v p options name)

/-- What the handlers find at a step. -/
def atStep (hs : List Handler) (step : Step) : Except ChainError (List Finding) := do
  let selected := hs.filter (·.selector == step.selector)
  return (← selected.mapM (·.handle step.node)).flatten

/-- What the handlers find on a walk. -/
def onWalk (hs : List Handler) (steps : List Step) : Except ChainError (List Finding) := do
  return (← steps.mapM (atStep hs)).flatten

/-- The diagnostics among findings, in their order. -/
def report (findings : List Finding) : List Diagnostic :=
  (findings.filterMap Finding.problem?).mergeSort Diagnostic.before

/-- Run rules over a tree. -/
def run (v : Vocabulary) (root : Node) (rules : List (String × Rule)) (options : OptionsTable) :
    Attempt ChainError Findings := do
  let parents := Parents.ofRoot root
  Attempt.note .debug .dispatch
    ("Dispatching " ++ toString rules.length ++ " rules over " ++ toString (parents.size + 1) ++
      " nodes")
  let findings ← onWalk (handlers v parents options rules) root.walk
  return ⟨report findings, findings.filterMap Finding.visit?⟩

end Dispatch

end ChainLint
