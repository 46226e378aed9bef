import ChainLint.Rule.Family
import ChainLint.Rule.Fix

/-!
# The catalog

The built-in rules: uses of collections and utilities that plain JavaScript has a lighter replacement
for. Most belong to a family; the rules on ajax events and on animations look at more than a name.
-/

namespace ChainLint.Catalog

open Config

/-! ## Messages -/

/-- The method that a call names, or nothing at all. -/
def methodName (n : Node) : String := (n.memberCallee?.bind Node.propertyName?).getD ""

/-- The same for the subject of a message. -/
def subjectName : Subject → String
  | .documentation => ""
  | .node n => methodName n

/-- What to use instead of reading, writing and removing attributes. -/
def attrMessage : Subject → String
  | .documentation => "Prefer `Element#getAttribute`/`setAttribute`/`removeAttribute`"
  | .node n =>
    let name := methodName n
    let replacement :=
      if name = "removeAttr" then "removeAttribute"
      else if n.arguments.length = 2 then "setAttribute"
      else "getAttribute"
    "Prefer Element#" ++ replacement ++ " to ." ++ name ++ "/$." ++ name

/-- What to use instead of binding and unbinding handlers. -/
def bindMessage : Subject → String
  | .documentation =>
    "Prefer `.on`/`.off` or `EventTarget#addEventListener`/`removeEventListener`"
  | .node n =>
    if methodName n = "unbind" then "Prefer .off or EventTarget#removeEventListener to .unbind"
    else "Prefer .on or EventTarget#addEventListener to .bind"

/-- What to use instead of a method that is named like an event. -/
def eventShorthandMessage : Subject → String
  | .documentation => "Prefer `.on` or `.trigger`"
  | .node n => "Prefer .on or .trigger to ." ++ methodName n

/-- A message made by a function that always has an answer. -/
def made (template : Subject → String) : Option Message :=
  some (.templated fun subject => some (template subject))

/-! ## Events -/

/-- The global ajax events. -/
def ajaxEvents : List String :=
  ["ajaxComplete", "ajaxError", "ajaxSend", "ajaxStart", "ajaxStop", "ajaxSuccess"]

/-- The methods that are named like the event they bind or trigger. -/
def eventShorthands : List String :=
  ["blur", "change", "click", "contextmenu", "dblclick", "focus", "focusin", "focusout", "keydown",
    "keypress", "keyup", "mousedown", "mouseenter", "mouseleave", "mousemove", "mouseout",
    "mouseover", "mouseup", "resize", "scroll", "select", "submit"]

/-- The ajax event that a literal names. -/
def ajaxLiteral? : Node → Option String
  | .literal _ value => value.string?.filter ajaxEvents.contains
  | _ => none

/-- The ajax event that a call binds: by a method of its name, or as the first argument of `on`. -/
def ajaxEvent? (call : Node) : Option String :=
  match call.memberCallee? with
  | none => none
  | some callee =>
    match callee.propertyName? with
    | none => none
    | some name =>
      if ajaxEvents.contains name then some name
      else if name = "on" then call.arguments.head?.bind ajaxLiteral?
      else none

def noAjaxEvents : Rule where
  info :=
    ⟨"Disallows global ajax events handlers: " ++ Rule.links Link.collection ajaxEvents ++
        ". Prefer local events.",
      .flag false, none, []⟩
  visitor c := Rule.onCall fun call =>
    match ajaxEvent? call with
    | none => .ok []
    | some event =>
      Rule.reportIf (c.classify .collection call)
        (.problem ⟨c.ruleId, call, "Prefer local event to " ++ event, none⟩)

/-! ## Animations -/

/-- The option that allows animations which only scroll. -/
def scrollKey : String := "allowScroll"

/-- The properties that scroll. -/
def scrollProperties : List String := ["scrollTop", "scrollLeft"]

/-- The key of an entry of an object literal; an entry that is no pair is its own key. -/
def entryKey : Node → Node
  | .other site kind (key :: rest) =>
    if kind = "Property" then key else .other site kind (key :: rest)
  | entry => entry

/-- Whether an entry sets a property that scrolls. -/
def scrolls (entry : Node) : Bool := (entryKey entry).name?.any scrollProperties.contains

/-- Whether a node is an object literal all of whose entries scroll. -/
def onlyScrolls : Node → Bool
  | .other _ "ObjectExpression" entries => entries.all scrolls
  | _ => false

/-- Whether the options allow animations which only scroll. -/
def allowsScroll (c : Context) : Bool :=
  match c.option? scrollKey with
  | some value => !value.isVoid
  | none => false

def noAnimate : Rule where
  info :=
    ⟨"Disallows the " ++ Link.collection "animate" ++ " method. Use the `allowScroll` option to " ++
        "allow animations which are just used for scrolling. Prefer CSS transitions.",
      .flag false, none, [Rule.entrySchema scrollKey [(.text "type", .text "boolean")]]⟩
  visitor c := Rule.onCall fun call =>
    if call.memberCallee?.bind Node.propertyName? ≠ some "animate" then .ok []
    else if allowsScroll c && call.arguments.head?.any onlyScrolls then .ok []
    else
      Rule.reportIf (c.classify .collection call)
        (.problem
          ⟨c.ruleId, call,
            if allowsScroll c then "Prefer CSS transitions to .animate"
            else "Prefer CSS transitions or CSS scroll-behaviour to .animate",
            none⟩)

/-! ## All rules -/

/-- A message that is the same everywhere. -/
def fixed (text : String) : Option Message := some (.fixed text)

/-- A rule that can repair code. -/
def repairing (fix : Fix) : RuleOptions := { fixable? := some .code, fix? := some fix }

/-- The built-in rules, by name. -/
def rules : List (String × Rule) :=
  [("no-ajax",
      .utilityMethod ["ajax", "get", "getJSON", "getScript", "post"] (fixed "Prefer `Window.fetch`") {}),
    ("no-ajax-events", noAjaxEvents),
    ("no-and-self",
      .collectionMethod ["andSelf"] (fixed "Prefer `.addBack` to `.andSelf`")
        (repairing Fix.andSelf)),
    ("no-animate", noAnimate),
    ("no-attr", .collectionOrUtilityMethod ["attr", "removeAttr"] (made attrMessage) {}),
    ("no-bind", .collectionMethod ["bind", "unbind"] (made bindMessage) {}),
    ("no-box-model", .utilityProperty "boxModel" (fixed "Prefer `document.compatMode`") {}),
    ("no-browser", .utilityProperty "browser" (fixed "Prefer `Window.navigator`") {}),
    ("no-data",
      .collectionOrUtilityMethod ["data", "removeData", "hasData"] (fixed "Prefer `WeakMap`") {}),
    ("no-event-shorthand",
      .collectionMethod eventShorthands (made eventShorthandMessage)
        (repairing Fix.eventShorthand)),
    ("no-selector-prop",
      .collectionProperty "selector" (fixed "Prefer passing the selector string explicitly") {}),
    ("no-size",
      .collectionMethod ["size"] (fixed "Prefer `.length` to `.size`") (repairing Fix.size)),
    ("no-unbind",
      .collectionMethod ["unbind"] (fixed "Prefer `.off` to `.unbind`")
        { deprecation := .inFavourOf ["no-bind"] }),
    ("no-val",
      .collectionMethod ["val"] (fixed "Prefer `HTMLInputElement#value`") { splitsUses := true })]

def find? (name : String) : Option Rule := rules.lookup name

/-- The names of the rules, in order. -/
def names : List String := Text.sorted (rules.map (·.1))

end ChainLint.Catalog
