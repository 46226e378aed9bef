import ChainLint.Pattern.Regex
import ChainLint.Text.Property.Blank
import ChainLint.Text.Property.Digit
import ChainLint.Text.Property.LowerCase
import ChainLint.Text.Property.UpperCase
import ChainLint.Text.Property.Word

/-!
# Tests on one character

The expressions that match exactly one character, with the flags worked into them. Where case is
ignored, a character is folded to its lower case before it is compared, and a member of a set stands for
all characters that fold to the same letter or to one with the same upper case. A test that holds
nothing cased does not fold, so that its classes see the character as it is.

Members past the basic plane are compared without such a table: a character stands for itself alone, a
range for its characters and those whose upper case lies in it.
-/

namespace ChainLint.Pattern

open ChainLint.Text

/-! ## Classes -/

/-- Whether a code point is a word character. -/
def isWord (ascii : Bool) (c : Nat) : Bool :=
  if ascii then (48 ≤ c && c ≤ 57) || (65 ≤ c && c ≤ 90) || c == 95 || (97 ≤ c && c ≤ 122)
  else c == 95 || Property.alphanumeric.mem c

/-- Whether a code point belongs to a class. -/
def Category.mem (ascii : Bool) (c : Nat) : Category → Bool
  | .digit => if ascii then 48 ≤ c && c ≤ 57 else Property.isDecimalDigit c
  | .blank => if ascii then Property.isAsciiBlank c else Property.isBlank c
  | .word => isWord ascii c

/-! ## Folding -/

/-- How a character is changed before it is compared. -/
inductive Fold where
  /-- Not at all. -/
  | exact
  /-- To its lower case, if it is an ASCII letter. -/
  | ascii
  /-- To its lower case. -/
  | unicode
  deriving Repr, DecidableEq

namespace Fold

/-- The lower case of an ASCII letter; other code points are their own. -/
def asciiLower (c : Nat) : Nat := if 65 ≤ c && c ≤ 90 then c + 32 else c

/-- Fold a code point. -/
def apply : Fold → Nat → Nat
  | .exact, c => c
  | .ascii, c => asciiLower c
  | .unicode, c => Property.lowerCase c

/-- Whether some code point from `low` to `high` is cased. -/
def cased : Fold → Nat → Nat → Bool
  | .exact, _, _ => false
  | .ascii, low, high => max low 65 ≤ min high 90 || max low 97 ≤ min high 122
  | .unicode, low, high => Property.casedBetween low high

/-- The code points that a folded one is like: those that fold to it, or to a lower case letter of the
same upper case. -/
def alike : Fold → Nat → List Nat
  | .exact, c => [c]
  | .ascii, c => if 97 ≤ c && c ≤ 122 then [c, c - 32] else [c]
  | .unicode, c =>
    if Property.isCased c then
      (c :: Property.caseSiblings c).flatMap fun d => d :: Property.upperForms d
    else [c]

end Fold

/-- The folding of a mode. -/
def Mode.fold (mode : Mode) : Fold :=
  if mode.ignoreCase then if mode.ascii then .ascii else .unicode else .exact

/-! ## Members of sets -/

namespace SetItem

/-- The last code point of the basic plane. -/
def planeEnd : Nat := 0xffff

/-- Whether a folded character belongs to a member of a set. -/
def admits (fold : Fold) (ascii : Bool) (c : Nat) : SetItem → Bool
  | .point p => if p ≤ planeEnd then (fold.alike c).contains p else c == p
  | .range low high =>
    (fold.alike c).any (fun d => low ≤ d && d ≤ min high planeEnd) ||
      (planeEnd < high && low ≤ c && c ≤ high) ||
      (planeEnd < high && fold != .exact && low ≤ Property.upperCase c &&
        Property.upperCase c ≤ high)
  | .category kind negated => kind.mem ascii c != negated

/-- Whether a member holds a cased character, or is a range past the basic plane. -/
def isCased (fold : Fold) : SetItem → Bool
  | .point p => fold.cased p p
  | .range low high => fold != .exact && (planeEnd < high || fold.cased low high)
  | .category .. => false

/-- Whether a set with this member folds: the member is cased or past the basic plane. -/
def folds (fold : Fold) : SetItem → Bool
  | .point p => fold != .exact && (planeEnd < p || fold.cased p p)
  | item => item.isCased fold

end SetItem

/-! ## Steps -/

/-- A test on one character. -/
inductive Step where
  /-- One character, which is given folded, or any but that one. -/
  | literal (fold : Fold) (negated : Bool) (c : Nat)
  /-- Any character, or any but a line feed. -/
  | any (lineFeed : Bool)
  /-- A member of a set, or none. -/
  | set (fold : Fold) (ascii negated : Bool) (items : List SetItem)
  deriving Repr, DecidableEq

namespace Step

/-- Whether a character passes. -/
def passes : Step → Nat → Bool
  | .literal fold negated p, c => (fold.apply c == p) != negated
  | .any lineFeed, c => lineFeed || c != 10
  | .set fold ascii negated items, c => items.any (·.admits fold ascii (fold.apply c)) != negated

/-- The test for one character. A letter that shares its upper case with other lower case letters is a
set with one member. -/
def ofPoint (mode : Mode) (negated : Bool) (c : Nat) : Step :=
  if mode.fold.cased c c then
    let l := mode.fold.apply c
    if mode.fold = .unicode ∧ Property.caseSiblings l ≠ [] then
      .set .unicode mode.ascii negated [.point l]
    else .literal mode.fold negated l
  else .literal .exact negated c

/-- The test for a set. -/
def ofSet (mode : Mode) (negated : Bool) (items : List SetItem) : Step :=
  match negated, items with
  | true, [.point c] => ofPoint mode true c
  | _, _ =>
    .set (if items.any (·.folds mode.fold) then mode.fold else .exact) mode.ascii negated items

/-- Whether the test is quick to reject: it compares the character as it is. -/
def isQuick : Step → Bool
  | .literal .exact false _ | .set .exact .. => true
  | _ => false

/-- The one character that passes as it is, if the test is that simple. -/
def sole? : Step → Option Nat
  | .literal .exact false c => some c
  | _ => none

/-- Whether characters that pass one after the other are taken one by one: those of a set that folds
are, all others are counted first. -/
def takesSingly : Step → Bool
  | .set fold .. => fold != .exact
  | _ => false

end Step

end ChainLint.Pattern
