import ChainLint.Config.Value
import ChainLint.Pattern

/-!
# The stack

To compile a pattern and to show a value takes the more of the stack the deeper groups, lists and tables
are nested in it, and breaks off when the stack is used up. How much there is of it depends on the host
and on the callers, so that a stack is known only by what it has room for. `Stack.ofCalls` estimates this
from the number of nested calls that a host allows.
-/

namespace ChainLint

/-- What a stack has room for. -/
structure Stack where
  /-- Whether the pattern of a text can be compiled without using up the stack. -/
  compiles : String → Bool
  /-- Whether a value can be shown without using up the stack. -/
  shows : Config.Value → Bool

namespace Stack

/-- A stack that is never used up. -/
def endless : Stack := ⟨fun _ => true, fun _ => true⟩

/-- What a symbol of a pattern belongs to. -/
inductive Spot where
  | expression
  /-- Behind the bracket that opens a set. -/
  | setOpened
  /-- At the first item of a set, which closes it in no case. -/
  | setFirst
  | set
  | comment

/-- How deep groups are nested in the rest of a pattern, as far as its parentheses tell. -/
def nesting (spot : Spot) (depth : Nat) : List Pattern.Token → Nat
  | [] => depth
  | symbol :: rest =>
    match spot with
    | .expression =>
      if symbol.is '[' then nesting .setOpened depth rest
      else if symbol.is '(' then
        if rest.take 2 == [.plain '?', .plain '#'] then nesting .comment depth rest
        else nesting .expression (depth + 1) rest
      else if symbol.is ')' then max depth (nesting .expression (depth - 1) rest)
      else nesting .expression depth rest
    | .setOpened => nesting (if symbol.is '^' then .setFirst else .set) depth rest
    | .setFirst => nesting .set depth rest
    | .set => nesting (if symbol.is ']' then .expression else .set) depth rest
    | .comment => nesting (if symbol.is ')' then .expression else .comment) depth rest

/-- The stack of a host that allows so many nested calls: two for each group and one for each list or
table. -/
def ofCalls (calls : Nat) : Stack where
  compiles text := 2 * nesting .expression 0 (Pattern.Token.scan text.toList) ≤ calls
  shows value := value.depth ≤ calls

/-- Compile a pattern, if there is room for it. -/
def compile (stack : Stack) (text : String) : Except Pattern.Rejection Pattern :=
  if stack.compiles text then Pattern.compile text else .error .tooDeep

end Stack

end ChainLint
