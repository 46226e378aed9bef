import ChainLint.Pattern.Step

/-!
# Programs

An expression together with a mode becomes a program, in which the flags are worked into the tests on
characters and every choice carries what can be known of it beforehand: an alternative the test it
begins with, a repetition of single characters the one character that has to follow it. A program also
has an entry, which says at which places of a text a match may begin at all.
-/

namespace ChainLint.Pattern

/-- What a matcher does. -/
inductive Program where
  | empty
  | one (step : Step)
  | anchor (mode : Mode) (a : Anchor)
  /-- The text that a group has captured. -/
  | reference (fold : Fold) (group : Nat)
  /-- Note the place as the mark with this index. -/
  | mark (index : Nat)
  | seq (first second : Program)
  | choice (first second : Program)
  /-- An alternative, which is not begun when a quick test of its first character fails. -/
  | guarded (guard : Option Step) (body : Program)
  /-- Rounds of one character; `stop` is the character that has to follow them, if it is known. -/
  | many (appetite : Appetite) (least : Nat) (most : Option Nat) (step : Step) (stop : Option Nat)
  | rounds (appetite : Appetite) (least : Nat) (most : Option Nat) (body : Program)
  | atomic (body : Program)
  /-- Whether the body matches from so many characters before the place. -/
  | assertion (back : Nat) (negated : Bool) (body : Program)
  | conditional (group : Nat) (yes no : Program)
  deriving Repr, DecidableEq

/-- The marks at the two ends of a group: the one where it opens, and the one where it closes. -/
def marksOf (group : Nat) : Nat × Nat := (2 * group - 2, 2 * group - 1)

/-- The characters that an assertion steps back. -/
def Side.back : Side → Nat
  | .ahead => 0
  | .behind least _ => least

namespace Regex

/-- The test of an expression that is one character. -/
def step? (mode : Mode) : Regex → Option Step
  | .point c => some (.ofPoint mode false c)
  | .any => some (.any mode.dotAll)
  | .set negated items => some (.ofSet mode negated items)
  | .scope change b => step? (mode.enter change) b
  | _ => none

/-- The test that an expression begins with, when an expression that begins with `next` follows it. -/
def opening (mode : Mode) (next : Option Step) : Regex → Option Step
  | .empty => next
  | .point c => some (.ofPoint mode false c)
  | .any => some (.any mode.dotAll)
  | .set negated items => some (.ofSet mode negated items)
  | .seq a b => opening mode (opening mode next b) a
  | .scope change b => opening (mode.enter change) next b
  | _ => none

/-- The test of the first character, if it is quick. -/
def guard (mode : Mode) (r : Regex) : Option Step := (r.opening mode none).filter Step.isQuick

/-- The program of an expression, when an expression that begins with `next` follows it. -/
def program (mode : Mode) (next : Option Step) : Regex → Program
  | .empty => .empty
  | .point c => .one (.ofPoint mode false c)
  | .any => .one (.any mode.dotAll)
  | .set negated items => .one (.ofSet mode negated items)
  | .anchor a => .anchor mode a
  | .reference g => .reference mode.fold g
  | .seq a b => .seq (program mode (b.opening mode next) a) (program mode next b)
  | .alt a b =>
    let last :=
      match b with
      | .alt .. => program mode none b
      | _ => .guarded (b.guard mode) (program mode none b)
    .choice (.guarded (a.guard mode) (program mode none a)) last
  | .capture g b =>
    .seq (.mark (marksOf g).1) (.seq (program mode none b) (.mark (marksOf g).2))
  | .scope change b => program (mode.enter change) next b
  | .atomic b => .atomic (program mode none b)
  | .rounds appetite least most b =>
    match b.step? mode with
    | some step => .many appetite least most step (next.bind Step.sole?)
    | none => .rounds appetite least most (program mode none b)
  | .assertion side negated b => .assertion side.back negated (program mode none b)
  | .conditional g yes no =>
    .conditional g (program mode (if no = .empty then next else none) yes) (program mode next no)

/-! ## Where a match may begin -/

/-- What an expression begins with. -/
inductive Lead where
  /-- This character, as it is. -/
  | point (c : Nat)
  /-- Nothing: it matches the empty text alone. -/
  | nothing
  | other
  deriving Repr, DecidableEq

/-- What an expression begins with. -/
def lead (mode : Mode) : Regex → Lead
  | .empty => .nothing
  | .point c => if mode.fold.cased c c then .other else .point c
  | .seq a b =>
    match lead mode a with
    | .nothing => lead mode b
    | l => l
  | .capture _ b => lead mode b
  | .scope change b => lead (mode.enter change) b
  | _ => .other

/-- The character that the first item of an expression is, if it is not cased. -/
def firstPoint? (mode : Mode) : Regex → Option Nat
  | .point c => if mode.fold.cased c c then none else some c
  | .seq a _ => firstPoint? mode a
  | _ => none

/-- The characters that alternatives begin with, if all of them begin with one. -/
def firstPoints? (mode : Mode) : Regex → Option (List Nat)
  | .alt a b => do
    let c ← a.firstPoint? mode
    return c :: (← firstPoints? mode b)
  | r => (r.firstPoint? mode).map ([·])

/-- The set, negated or not, that the first item of an expression takes its character from, if the set
holds nothing cased. -/
def firstSet? (mode : Mode) : Regex → Option (Bool × List SetItem)
  | .point c => if mode.fold.cased c c then none else some (false, [.point c])
  | .set true [.point _] => none
  | .set negated items => if items.any (·.isCased mode.fold) then none else some (negated, items)
  | .seq a _ => firstSet? mode a
  | .alt a b => (firstPoints? mode (.alt a b)).map fun cs => (false, cs.map SetItem.point)
  | .capture _ b => firstSet? mode b
  | .scope change b => firstSet? (mode.enter change) b
  | _ => none

end Regex

/-- Where a match may begin. -/
structure Entry where
  /-- The least number of characters that a match takes. -/
  least : Nat
  /-- The test that the first character passes, if one is known. -/
  first : Option Step
  deriving Repr, DecidableEq

namespace Entry

/-- The entry of an expression. The classes of a first set are those of the whole pattern, also where a
scope chooses another alphabet. -/
def ofRegex (mode : Mode) (least : Nat) (r : Regex) : Entry where
  least := least
  first :=
    if least = 0 then none
    else
      match r.lead mode with
      | .point c => some (.literal .exact false c)
      | _ => (r.firstSet? mode).map fun (negated, items) => .set .exact mode.ascii negated items

/-- The places of a text where a match may begin. -/
def places (e : Entry) (text : Array Nat) : List Nat :=
  if text.size < e.least then []
  else
    match e.first with
    | some step => (List.range text.size).filter fun i => (text[i]?.map step.passes).getD false
    | none => List.range (text.size - (e.least - 1) + 1)

end Entry

end ChainLint.Pattern
