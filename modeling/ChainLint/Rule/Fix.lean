import ChainLint.Rule.Basic
import ChainLint.Text.JsonString

/-!
# Fixes

How the rules repair a call of a collection method. The property that names the method is replaced, and
the parentheses of the call or an argument may change with it; a node that is no such call is left alone.
-/

namespace ChainLint.Fix

open Text

/-- The call `.size()` becomes `.length`. -/
def size : Fix := fun _ call =>
  match call.memberCallee?.bind Node.property? with
  | some property => [⟨⟨property.span.start, call.span.stop⟩, "length"⟩]
  | none => []

/-- The method `andSelf` becomes `addBack`. -/
def andSelf : Fix := fun _ call =>
  match call.memberCallee?.bind Node.property? with
  | some property => [Edit.replace property "addBack"]
  | none => []

/-- A handler is bound under the name of its event, `.on("click", handler)` for `.click(handler)`; a call
without a handler triggers the event, `.trigger("click")` for `.click()`. -/
def eventShorthand : Fix := fun _ call =>
  match call.memberCallee? with
  | none => []
  | some callee =>
    match callee.property? with
    | none => []
    | some property =>
      let name := JsonString.encode (callee.propertyName?.getD "")
      match call.arguments with
      | first :: _ => [Edit.replace property "on", Edit.insertBefore first (name ++ ", ")]
      | [] => [Edit.replace property "trigger", Edit.insertAt (call.span.stop - 1) name]

/-- The node is taken out. -/
def remove : Fix := fun _ n => [Edit.remove n]

/-- The node becomes the argument of a call that is named like the rule. -/
def wrap : Fix := fun ruleId n => [Edit.insertBefore n (ruleId ++ "("), Edit.insertAfter n ")"]

end ChainLint.Fix
