import ChainLint.Pattern.Matcher
import ChainLint.Pattern.Parser

/-!
# Variable patterns

A pattern is a text together with the program it denotes and the places where a match may begin. Beyond
the grammar, a pattern is refused when a lookbehind has no fixed width, and when the template flag meets
a repetition. A name matches when the program matches somewhere in it.
-/

namespace ChainLint

open Pattern

/-- A compiled variable pattern. -/
structure Pattern where
  text : String
  program : Program
  entry : Entry
  deriving Repr, DecidableEq

namespace Pattern

/-- The first assertion or repetition, in reading order, that cannot be used. -/
def Regex.obstacle? (template : Bool) : Regex → Option Problem
  | .empty | .point _ | .any | .set .. | .anchor _ | .reference _ => none
  | .seq a b | .alt a b | .conditional _ a b =>
    match obstacle? template a with
    | some problem => some problem
    | none => obstacle? template b
  | .capture _ b | .scope _ b | .atomic b => obstacle? template b
  | .rounds appetite _ _ b =>
    if template then some (.templateRepeat appetite) else obstacle? template b
  | .assertion side _ b =>
    match side with
    | .ahead => obstacle? template b
    | .behind least greatest =>
      if least ≠ greatest then some .lookbehindWidth else obstacle? template b

/-- The mode that the flags of a whole pattern set. -/
def modeOf (flags : List Flag) : Mode where
  ignoreCase := flags.contains .ignoreCase
  multiLine := flags.contains .multiLine
  dotAll := flags.contains .dotAll
  ascii := flags.contains .ascii

/-- The pattern of an expression. -/
def ofExpression (text : String) (e : Expression) : Pattern where
  text := text
  program := e.regex.program (modeOf e.flags) none
  entry := .ofRegex (modeOf e.flags) e.least e.regex

def compile (text : String) : Except Rejection Pattern := do
  let e ← Expression.parse text.toList
  match e.regex.obstacle? (e.flags.contains .template) with
  | some problem => throw (.malformed problem none)
  | none => return ofExpression text e

/-- The text as the matcher sees it. -/
def Subject.ofString (s : String) : Subject := ⟨(s.toList.map Char.toNat).toArray⟩

/-- Whether the pattern matches somewhere in a name. -/
def search (p : Pattern) (name : String) : Bool := p.program.search (.ofString name) p.entry

end Pattern

end ChainLint
