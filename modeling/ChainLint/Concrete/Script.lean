import ChainLint.Concrete.Lowering
import ChainLint.Log

/-!
# Scripts

A script is a JavaScript text together with the concrete tree that a parser made of it. A text with
syntax errors has no tree; that is noted, and there is nothing to lint.
-/

namespace ChainLint

open Concrete Text

/-- A JavaScript text and its concrete tree, if it is free of syntax errors. -/
structure Script where
  text : String
  tree? : Option Tree
  deriving Repr

namespace Script

def byteCount (s : Script) : Nat := (Utf8.encode s.text.toList).length

def program? (s : Script) : Attempt LowerError (Option Node) :=
  match s.tree? with
  | none => do
    Attempt.note .warning .parsing
      ("Syntax error, skipping source (" ++ toString s.byteCount ++ " bytes)")
    return none
  | some t => do return some (← (SourceText.ofString s.text).lower t)

end Script

end ChainLint
