import ChainLint.Decimal.Shortest
import ChainLint.Numeral
import ChainLint.Text.Quoted

/-!
# Configuration values

What a configuration document holds: null, booleans, numbers, texts, lists and tables. A table keeps the
order in which its keys were first written. Keys need not be texts; a number and a boolean are the same
key when they are equal as numbers, and writing a key again replaces the value but keeps the place and
the spelling of the key. Integers of more digits than numbers may have are not spelled.
-/

namespace ChainLint.Config

open ChainLint.Decimal ChainLint.Text

/-! ## Keys -/

/-- A key of a table. -/
inductive Key where
  | text (s : String)
  | integer (n : Int)
  | real (x : Binary64)
  | boolean (b : Bool)
  | null
  deriving Repr, DecidableEq

/-- A fraction whose denominator is a power of two. -/
structure Dyadic where
  num : Int
  /-- The exponent of the denominator. -/
  places : Nat
  deriving Repr, DecidableEq

namespace Dyadic

/-- Comparison of two fractions as numbers. -/
def le (a b : Dyadic) : Bool := a.num * Int.pow 2 b.places ≤ b.num * Int.pow 2 a.places

/-- Equality of two fractions as numbers. -/
def same (a b : Dyadic) : Bool := a.num * Int.pow 2 b.places == b.num * Int.pow 2 a.places

/-- The value of a finite double. -/
def ofReal? (x : Binary64) : Option Dyadic :=
  match x.meaning with
  | .finite negative m e =>
    let n : Int := if negative then -(m : Int) else m
    some ⟨n * Int.pow 2 e.toNat, (-e).toNat⟩
  | _ => none

end Dyadic

namespace Key

/-- The number that a key is, if it is one. -/
def number? : Key → Option Dyadic
  | .integer n => some ⟨n, 0⟩
  | .boolean b => some ⟨if b then 1 else 0, 0⟩
  | .real x => Dyadic.ofReal? x
  | .text _ | .null => none

/-- Whether two keys name the same entry. -/
def same (a b : Key) : Bool :=
  match a.number?, b.number? with
  | some x, some y => x.same y
  | _, _ => a == b

def typeName : Key → String
  | .text _ => "str"
  | .integer _ => "int"
  | .real _ => "float"
  | .boolean _ => "bool"
  | .null => "NoneType"

end Key

/-! ## Spelling -/

def spellBool (b : Bool) : String := if b then "True" else "False"

def spellNull : String := "None"

/-- A key as a plain word. -/
def Key.plain : Key → String
  | .text s => s
  | .integer n => toString n
  | .real x => x.render
  | .boolean b => spellBool b
  | .null => spellNull

/-- A key as it is shown inside a table: texts are quoted. -/
def Key.render : Key → String
  | .text s => Quoted.quote s
  | key => key.plain

/-- Whether an integer has few enough digits to be spelled. -/
def isShort (n : Int) : Bool := n.natAbs < Nat.pow 10 Numeral.digitLimit

def Key.isSpelled : Key → Bool
  | .integer n => isShort n
  | _ => true

/-! ## Values -/

inductive Value where
  | null
  | boolean (b : Bool)
  | integer (n : Int)
  | real (x : Binary64)
  | text (s : String)
  | list (items : List Value)
  | table (entries : List (Key × Value))
  deriving Repr, Inhabited

/-- The entries of a table, in order. -/
abbrev Table := List (Key × Value)

namespace Value

def typeName : Value → String
  | .null => "NoneType"
  | .boolean _ => "bool"
  | .integer _ => "int"
  | .real _ => "float"
  | .text _ => "str"
  | .list _ => "list"
  | .table _ => "dict"

/-- Whether a value says nothing: null, false, zero, or empty. Where a setting may be left out, such a
value counts as left out. -/
def isVoid : Value → Bool
  | .null => true
  | .boolean b => !b
  | .integer n => n == 0
  | .real x => x == .zero false || x == .zero true
  | .text s => s.isEmpty
  | .list items => items.isEmpty
  | .table entries => entries.isEmpty

mutual

/-- A value as messages show it. -/
def render : Value → String
  | .null => spellNull
  | .boolean b => spellBool b
  | .integer n => toString n
  | .real x => x.render
  | .text s => Quoted.quote s
  | .list items => "[" ++ ", ".intercalate (renderItems items) ++ "]"
  | .table entries => "\x7b" ++ ", ".intercalate (renderEntries entries) ++ "\x7d"

def renderItems : List Value → List String
  | [] => []
  | v :: rest => v.render :: renderItems rest

def renderEntries : List (Key × Value) → List String
  | [] => []
  | (k, v) :: rest => (k.render ++ ": " ++ v.render) :: renderEntries rest

end

mutual

/-- Whether all integers of a value are spelled. -/
def isSpelled : Value → Bool
  | .integer n => isShort n
  | .list items => areSpelled items
  | .table entries => entriesSpelled entries
  | .null | .boolean _ | .real _ | .text _ => true

def areSpelled : List Value → Bool
  | [] => true
  | v :: rest => v.isSpelled && areSpelled rest

def entriesSpelled : List (Key × Value) → Bool
  | [] => true
  | (k, v) :: rest => k.isSpelled && v.isSpelled && entriesSpelled rest

end

mutual

/-- How deep lists and tables are nested in a value. -/
def depth : Value → Nat
  | .list items => depthOfItems items + 1
  | .table entries => depthOfEntries entries + 1
  | .null | .boolean _ | .integer _ | .real _ | .text _ => 0

def depthOfItems : List Value → Nat
  | [] => 0
  | v :: rest => max v.depth (depthOfItems rest)

def depthOfEntries : List (Key × Value) → Nat
  | [] => 0
  | (_, v) :: rest => max v.depth (depthOfEntries rest)

end

end Value

/-! ## Tables -/

namespace Table

/-- Write an entry: the value of an existing key is replaced, a new key goes to the end. -/
def insert (key : Key) (value : Value) : Table → Table
  | [] => [(key, value)]
  | (k, v) :: rest =>
    if k.same key then (k, value) :: rest else (k, v) :: insert key value rest

/-- The table that results from writing entries in order. -/
def ofEntries (entries : List (Key × Value)) : Table :=
  entries.foldl (fun t e => t.insert e.1 e.2) []

/-- The value of a text key. -/
def find? (t : Table) (name : String) : Option Value :=
  (List.find? (fun e => e.1 == .text name) t).map (·.2)

/-- The value of a text key that must not be null, as settings treat null like a missing key. -/
def get (t : Table) (name : String) : Value := (t.find? name).getD .null

end Table

end ChainLint.Config
