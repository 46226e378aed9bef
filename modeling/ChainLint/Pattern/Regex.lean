/-!
# Regular expressions

The expressions that a variable pattern denotes. Sequence and alternative are binary, so that every
function on expressions is a recursion without lists. A group without a number and without flags is a
scope that changes nothing; it dissolves in the sequence around it. Alternatives give up the items that
all of them begin with, and alternatives of single characters are a set. Code points are numbers,
because an escape may name a surrogate, which no text contains.
-/

namespace ChainLint.Pattern

/-! ## Flags -/

/-- The flags that matter while matching. Without `ascii`, classes and case follow Unicode. -/
structure Mode where
  ignoreCase : Bool
  multiLine : Bool
  dotAll : Bool
  ascii : Bool
  deriving Repr, DecidableEq

/-- The mode of a pattern without flags. -/
def Mode.plain : Mode := ⟨false, false, false, false⟩

/-- A flag letter. -/
inductive Flag where
  | ignoreCase
  | locale
  | multiLine
  | dotAll
  | verbose
  | ascii
  | template
  | unicode
  deriving Repr, DecidableEq

namespace Flag

/-- The flag of a letter. -/
def ofChar? : Char → Option Flag
  | 'i' => some .ignoreCase
  | 'L' => some .locale
  | 'm' => some .multiLine
  | 's' => some .dotAll
  | 'x' => some .verbose
  | 'a' => some .ascii
  | 't' => some .template
  | 'u' => some .unicode
  | _ => none

/-- Whether the flag chooses how classes and case are read; such flags exclude each other. -/
def choosesAlphabet : Flag → Bool
  | .ascii | .locale | .unicode => true
  | _ => false

end Flag

/-- Flags that a scope turns on and off. -/
structure FlagChange where
  on : List Flag
  off : List Flag
  deriving Repr, DecidableEq

/-- No change. -/
def FlagChange.none : FlagChange := ⟨[], []⟩

/-- The value of a flag after a change. -/
def FlagChange.settle (change : FlagChange) (flag : Flag) (before : Bool) : Bool :=
  (before || change.on.contains flag) && !change.off.contains flag

/-- The mode inside a scope. A flag that chooses the alphabet replaces the earlier choice. -/
def Mode.enter (mode : Mode) (change : FlagChange) : Mode where
  ignoreCase := change.settle .ignoreCase mode.ignoreCase
  multiLine := change.settle .multiLine mode.multiLine
  dotAll := change.settle .dotAll mode.dotAll
  ascii :=
    if change.on.contains .ascii then true
    else if change.on.contains .unicode then false
    else mode.ascii

/-! ## Expressions -/

/-- A class of characters. -/
inductive Category where
  | digit
  | blank
  | word
  deriving Repr, DecidableEq

/-- A member of a character set. -/
inductive SetItem where
  | point (c : Nat)
  | range (low high : Nat)
  | category (kind : Category) (negated : Bool)
  deriving Repr, DecidableEq

/-- A condition on the place between two characters. -/
inductive Anchor where
  | lineStart
  | lineEnd
  | textStart
  | textEnd
  | wordEdge
  | noWordEdge
  deriving Repr, DecidableEq

/-- How a repetition chooses its number of rounds. -/
inductive Appetite where
  /-- As many as possible, fewer when the rest does not match. -/
  | greedy
  /-- As few as possible, more when the rest does not match. -/
  | lazy
  /-- As many as possible, never fewer. -/
  | possessive
  deriving Repr, DecidableEq

/-- Which side of the current place an assertion looks at. -/
inductive Side where
  | ahead
  /-- Behind, with the least and the greatest width of the body. -/
  | behind (least greatest : Nat)
  deriving Repr, DecidableEq

/-- A regular expression. -/
inductive Regex where
  | empty
  | point (c : Nat)
  | any
  | set (negated : Bool) (items : List SetItem)
  | anchor (a : Anchor)
  /-- The text that a group has captured. -/
  | reference (group : Nat)
  | seq (first second : Regex)
  | alt (first second : Regex)
  | capture (group : Nat) (body : Regex)
  | scope (change : FlagChange) (body : Regex)
  /-- The body is matched once and not reconsidered. -/
  | atomic (body : Regex)
  /-- At least `least` and at most `most` rounds of the body; no bound when `most` is absent. -/
  | rounds (appetite : Appetite) (least : Nat) (most : Option Nat) (body : Regex)
  | assertion (side : Side) (negated : Bool) (body : Regex)
  /-- One of two expressions, by whether a group has captured anything. -/
  | conditional (group : Nat) (yes no : Regex)
  deriving Repr, DecidableEq

namespace Regex

/-! ## Sequences -/

/-- The items of a sequence. -/
def items : Regex → List Regex
  | .empty => []
  | .seq a b => a :: b.items
  | r => [r]

/-- The sequence of some items. -/
def ofItems : List Regex → Regex
  | [] => .empty
  | [r] => r
  | r :: rest => .seq r (ofItems rest)

/-- The items that an item stands for: those inside, for a scope that changes nothing. -/
def dissolve : Regex → List Regex
  | .scope ⟨[], []⟩ body => body.items
  | r => [r]

/-- The sequence of some items that are given last one first. -/
def ofReversed (reversed : List Regex) : Regex := ofItems (reversed.reverse.flatMap dissolve)

/-- What a repetition after an item repeats. -/
def repeated : Regex → Regex
  | .scope ⟨[], []⟩ body => body
  | r => r

/-! ## Alternatives -/

/-- Whether alternatives that begin with the item can give it up: it holds no expression. -/
def isPlain : Regex → Bool
  | .point _ | .any | .set .. | .anchor _ | .reference _ => true
  | _ => false

/-- Split off the plain items that all alternatives begin with: those items, and what is left of the
first and of the other alternatives. -/
def splitShared : List Regex → List (List Regex) → List Regex × List Regex × List (List Regex)
  | [], others => ([], [], others)
  | r :: first, others =>
    if r.isPlain && others.all (·.head? == some r) then
      let (shared, first, others) := splitShared first (others.map List.tail)
      (r :: shared, first, others)
    else ([], r :: first, others)

/-- The members of the set that a single item is. -/
def members? : List Regex → Option (List SetItem)
  | [.point c] => some [.point c]
  | [.set false items] => some items
  | _ => none

/-- A chain of alternatives. Alternatives at its end that are an item of their own stay apart. -/
def chain : List Regex → Regex
  | [] => .empty
  | [.alt a b] => .scope .none (.alt a b)
  | [r] => r
  | r :: rest => .alt r (chain rest)

/-- The expression of some alternatives. -/
def ofAlternatives : List Regex → Regex
  | [] => .empty
  | [r] => r
  | first :: others =>
    let (shared, first, others) := splitShared first.items (others.map items)
    let choice :=
      match (first :: others).mapM members? with
      | some sets => .set false sets.flatten.eraseDups
      | none => chain ((first :: others).map ofItems)
    ofItems (shared ++ [choice])

/-! ## Width -/

/-- The bound of least widths; a greater one is taken for it. -/
def leastBound : Nat := 0xfffffffe

/-- The bound of greatest widths; a greater one, or none, is taken for it. -/
def greatestBound : Nat := 0xffffffff

/-- The greatest width of `most` rounds of a body of greatest width `w`. -/
def roundsWidth (most : Option Nat) (w : Nat) : Nat :=
  match most with
  | some n => min (w * n) greatestBound
  | none => if w = 0 then 0 else greatestBound

/-- The least and the greatest number of characters that the expression can match; `groups` gives the
widths of the groups that references name. -/
def width (groups : Nat → Nat × Nat) : Regex → Nat × Nat
  | .empty | .anchor _ | .assertion .. => (0, 0)
  | .point _ | .any | .set .. => (1, 1)
  | .reference g => groups g
  | .seq a b =>
    let (l₁, h₁) := width groups a
    let (l₂, h₂) := width groups b
    (min (l₁ + l₂) leastBound, min (h₁ + h₂) greatestBound)
  | .alt a b | .conditional _ a b =>
    let (l₁, h₁) := width groups a
    let (l₂, h₂) := width groups b
    (min l₁ l₂, max h₁ h₂)
  | .capture _ b | .scope _ b | .atomic b => width groups b
  | .rounds _ least most b =>
    let (l, h) := width groups b
    (min (l * least) leastBound, roundsWidth most h)

end Regex

end ChainLint.Pattern
