import ChainLint.Pattern.Problem

/-!
# Reading a pattern

The text of a pattern is read one symbol at a time, where a backslash and the character after it are one
symbol. The reader looks one symbol ahead, so a backslash at the very end is refused as soon as the
symbol before it has been taken. `Reading` carries the cursor together with what the groups read so far
have established.
-/

namespace ChainLint.Pattern

/-- A symbol of the text of a pattern. -/
inductive Token where
  | plain (c : Char)
  | escaped (c : Char)
  /-- A backslash with nothing after it. -/
  | dangling
  deriving Repr, DecidableEq

namespace Token

def scan : List Char → List Token
  | [] => []
  | ['\\'] => [.dangling]
  | '\\' :: c :: rest => .escaped c :: scan rest
  | c :: rest => .plain c :: scan rest

def text : Token → List Char
  | .plain c => [c]
  | .escaped c => ['\\', c]
  | .dangling => ['\\']

/-- Whether the symbol is this plain character. -/
def is (c : Char) : Token → Bool
  | .plain d => c == d
  | _ => false

/-- The plain character of a symbol. -/
def plain? : Token → Option Char
  | .plain c => some c
  | _ => none

end Token

/-- The state of a reading. -/
structure Reading where
  /-- The symbols not yet taken. -/
  rest : List Token
  /-- The number of characters before them. -/
  position : Nat
  /-- The flags turned on for the whole pattern. -/
  flags : List Flag
  /-- The widths of the groups opened so far, the first group first; absent while a group is open. -/
  widths : List (Option (Nat × Nat))
  /-- The named groups. -/
  names : List (String × Nat)
  /-- Inside a lookbehind, the number of groups opened before it. -/
  behind : Option Nat
  /-- The groups named by number in conditions, each with the first place that names it. -/
  conditions : List (Nat × Nat)
  deriving Repr

/-- Steps of a reading, which end early with a rejection. -/
abbrev Reader (α : Type) := StateT Reading (Except Rejection) α

namespace Reader

/-- Refuse the pattern at a place `back` characters before the cursor. -/
def refuse {α : Type} (problem : Problem) (back : Nat) : Reader α := do
  let r ← get
  throw (.malformed problem (some (r.position - back)))

def peek : Reader (Option Token) := return (← get).rest.head?

/-- The characters before the cursor. -/
def position : Reader Nat := return (← get).position

/-- A backslash at the end is refused when it comes into sight. -/
def refuseDangling : Reader Unit := do
  if (← peek) = some .dangling then refuse .danglingEscape 0

/-- Take the next symbol, if there is one. -/
def next : Reader (Option Token) := do
  let r ← get
  match r.rest with
  | [] => return none
  | t :: rest =>
    set { r with rest, position := r.position + t.text.length }
    refuseDangling
    return some t

/-- Take the next symbol if it is this plain character. -/
def accept (c : Char) : Reader Bool := do
  match ← peek with
  | some t =>
    if t.is c then
      let _ ← next
      return true
    else return false
  | none => return false

/-- Take at most `n` plain characters that pass a test. -/
def spanUpTo (test : Char → Bool) : Nat → Reader (List Char)
  | 0 => return []
  | n + 1 => do
    match (← peek).bind Token.plain? with
    | some c =>
      if test c then
        let _ ← next
        return c :: (← spanUpTo test n)
      else return []
    | none => return []

def span (test : Char → Bool) : Reader (List Char) := do
  spanUpTo test (← get).rest.length

/-- Take the characters of symbols up to a terminator; `taken` holds those taken so far, last first. -/
def untilFrom (terminator : Char) (kind : NameKind) : Nat → List Char → Reader (List Char)
  | 0, _ => throw .tooDeep
  | n + 1, taken => do
    match ← next with
    | none =>
      if taken.isEmpty then refuse (.missingName kind) 0
      else refuse (.unterminatedName terminator) taken.length
    | some t =>
      if t.is terminator then
        if taken.isEmpty then refuse (.missingName kind) 1 else return taken.reverse
      else untilFrom terminator kind n (t.text.reverse ++ taken)

/-- Take a name, which ends at a terminator. -/
def takeUntil (terminator : Char) (kind : NameKind) : Reader (List Char) := do
  untilFrom terminator kind ((← get).rest.length + 1) []

/-! ## Groups -/

/-- The number that the next group gets. -/
def nextGroup : Reader Nat := return (← get).widths.length + 1

/-- The width of a group that is closed. -/
def Reading.closedWidth? (r : Reading) (group : Nat) : Option (Nat × Nat) :=
  if group = 0 then none else (r.widths[group - 1]?).bind id

/-- Whether a group exists and is closed. -/
def isClosed (group : Nat) : Reader Bool :=
  return (Reading.closedWidth? (← get) group).isSome

/-- Open the next group. -/
def openGroup (name : Option String) : Reader Nat := do
  let group ← nextGroup
  let r ← get
  match name with
  | none => set { r with widths := r.widths ++ [none] }
  | some name =>
    match r.names.find? (·.1 == name) with
    | some (_, earlier) => refuse (.redefinedGroup name group earlier) (name.length + 1)
    | none => set { r with widths := r.widths ++ [none], names := r.names ++ [(name, group)] }
  return group

/-- Widths of the groups for references inside an expression. -/
def widthOf (r : Reading) (group : Nat) : Nat × Nat := (Reading.closedWidth? r group).getD (0, 0)

/-- Close a group with its body. -/
def closeGroup (group : Nat) (body : Regex) : Reader Unit :=
  modify fun r => { r with widths := r.widths.set (group - 1) (some (body.width (widthOf r))) }

/-- Inside a lookbehind only groups closed before it can be referred to. -/
def refuseInLookbehind (group : Nat) : Reader Unit := do
  match (← get).behind with
  | none => return ()
  | some before =>
    if !(← isClosed group) then refuse .openGroup 0
    else if group > before then refuse .groupOfSameLookbehind 0

end Reader

end ChainLint.Pattern
