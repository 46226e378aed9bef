import ChainLint.Chain.Classifier

/-!
# Messages

The wording of rules. A message is a fixed text or is made for its subject, which is either the
documentation of the rule or the node that is reported. Messages may mark code with grave accents; in
reports the marks are left out, and a rule that has no message says that the name is not allowed.
-/

namespace ChainLint

/-- What a message speaks about. -/
inductive Subject where
  /-- The documentation of a rule, where there is no particular node. -/
  | documentation
  | node (n : Node)
  deriving Repr

inductive Message where
  | fixed (text : String)
  | templated (template : Subject → Option String)

/-- Whether a rule is deprecated, and the rules that take its place. -/
inductive Deprecation where
  | flag (deprecated : Bool)
  | inFavourOf (rules : List String)
  deriving Repr, DecidableEq

namespace Deprecation

/-- Whether a rule is deprecated; a list of no rules does not deprecate. -/
def isDeprecated : Deprecation → Bool
  | .flag deprecated => deprecated
  | .inFavourOf rules => !rules.isEmpty

/-- The rules that take the place of a rule, if they were listed. -/
def replacements? : Deprecation → Option (List String)
  | .flag _ => none
  | .inFavourOf rules => some rules

/-- The sentence that a report adds for a deprecated rule. -/
def clause (d : Deprecation) : String :=
  if d.isDeprecated then
    match d with
    | .flag _ => ". This rule is deprecated."
    | .inFavourOf rules => ". This rule is deprecated, use " ++ ", ".intercalate rules ++ "."
  else ""

end Deprecation

namespace Message

/-- A value that cannot serve as a message. -/
structure Unsupported where
  typeName : String
  deriving Repr, DecidableEq

def Unsupported.message (e : Unsupported) : String := "Unsupported message type: " ++ e.typeName

/-- A message given as a value: a text, or null for none. -/
def ofValue : Config.Value → Except Unsupported (Option Message)
  | .null => .ok none
  | .text s => .ok (some (.fixed s))
  | other => .error ⟨other.typeName⟩

/-- The text of a message; a template without an answer says nothing. -/
def render (m : Message) (subject : Subject) : String :=
  match m with
  | .fixed text => text
  | .templated template => (template subject).getD ""

/-- The text of a message, if there is one. -/
def renderOption (m : Option Message) (subject : Subject) : String :=
  match m with
  | some m => m.render subject
  | none => ""

/-! ## The documentation suffix -/

/-- The word that opens a recommendation. -/
def preferMark : List Char := "Prefer ".toList

/-- The word between a recommendation and what it replaces. -/
def toMark : List Char := " to ".toList

/-- The text around the first occurrence of a mark: before it, and after it. -/
def splitFirst? (mark : List Char) : List Char → Option (List Char × List Char)
  | [] => none
  | c :: rest =>
    if mark.isPrefixOf (c :: rest) then some ([], (c :: rest).drop mark.length)
    else (splitFirst? mark rest).map fun (before, after) => (c :: before, after)

/-- The text before the last occurrence of a mark. -/
def beforeLast? (mark : List Char) : List Char → Option (List Char)
  | [] => none
  | c :: rest =>
    match beforeLast? mark rest with
    | some before => some (c :: before)
    | none => if mark.isPrefixOf (c :: rest) then some [] else none

/-- A line in which `Prefer X to Y` is shortened to `Prefer X`. -/
def shortenLine (line : List Char) : List Char :=
  match splitFirst? preferMark line with
  | none => line
  | some (before, after) =>
    match beforeLast? toMark after with
    | none => line
    | some kept => before ++ preferMark ++ kept

/-- A text whose last line is shortened; a line feed at its end stays. -/
def shorten (text : List Char) : List Char :=
  let (body, tail) :=
    match text.reverse with
    | '\n' :: rest => (rest, ['\n'])
    | all => (all, [])
  let line := (body.takeWhile (· != '\n')).reverse
  (body.dropWhile (· != '\n')).reverse ++ shortenLine line ++ tail

/-- The sentence that a message adds to the description of a rule. The name of the method stands in the
description already, so that a recommendation need not repeat it. -/
def suffix (m : Option Message) : String :=
  let text := renderOption m .documentation
  if text.isEmpty then "" else " " ++ String.ofList (shorten text.toList) ++ "."

/-! ## Reports -/

/-- What a report says if the rule has no message. -/
def fallback (name : String) : Origin → String
  | .utility => "$." ++ name ++ " is not allowed"
  | .either => "." ++ name ++ "/$." ++ name ++ " is not allowed"
  | .collection => "." ++ name ++ " is not allowed"

def unmarked (text : String) : String := String.ofList (text.toList.filter (· != '\x60'))

/-- The text of a report: the message without marks or its fallback, and a word on deprecation. -/
def report (m : Option Message) (n : Node) (name : String) (origin : Origin)
    (deprecation : Deprecation) : String :=
  let text := unmarked (renderOption m (.node n))
  (if text.isEmpty then fallback name origin else text) ++ deprecation.clause

end Message

/-! ## Links -/

namespace Link

/-- Where the methods are documented. -/
def base : String := "https://api.jquery.com/"

/-- Collection methods without a page of their own. -/
def unlinkedMethods : List String := ["hasData"]

/-- Utilities without a page of their own. -/
def undocumentedUtilities : List String :=
  ["attr", "camelCase", "clone", "css", "filter", "find", "prop", "text"]

def collection (name : String) : String :=
  if unlinkedMethods.contains name then "`." ++ name ++ "`"
  else "[`." ++ name ++ "`](" ++ base ++ name ++ "/)"

def utility (name : String) : String :=
  if undocumentedUtilities.contains name then "`$." ++ name ++ "`"
  else "[`$." ++ name ++ "`](" ++ base ++ "jQuery." ++ name ++ "/)"

end Link

end ChainLint
