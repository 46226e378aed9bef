import ChainLint.Decimal.Binary64

/-!
# The shortest decimal that reads back

A double is shown with the fewest significant digits that still read back to it. The reals that round
to a given double form an interval around it, ends included when its significand is even; for one digit,
two digits and so on the two neighbours of the value on the grid of that many digits are tried, and the
first grid with a neighbour inside the interval wins. Everything is compared exactly, in units of a
quarter of the last binary place.
-/

namespace ChainLint.Decimal

/-- A decimal number `digits · 10 ^ exponent`. -/
structure Scientific where
  digits : Nat
  exponent : Int
  deriving Repr, DecidableEq

namespace Shortest

/-- A positive double in quarters of its last place, with the interval of the reals that round to it. -/
structure Target where
  value : Nat
  low : Nat
  high : Nat
  /-- The power of two that one quarter stands for. -/
  unit : Int
  /-- Whether the ends of the interval belong to it. -/
  closed : Bool
  deriving Repr, DecidableEq

/-- The target of `significand · 2 ^ exponent`. Below a power of two the gap is half as wide. -/
def Target.of (significand : Nat) (exponent : Int) : Target where
  value := 4 * significand
  low := 4 * significand -
    (if significand = Binary64.hidden ∧ exponent > Binary64.leastExponent then 1 else 2)
  high := 4 * significand + 2
  unit := exponent - 2
  closed := significand % 2 == 0

/-- `digits · 10 ^ p` and `quarters · 2 ^ unit`, brought to one scale. -/
def align (digits : Nat) (p : Int) (quarters : Nat) (unit : Int) : Nat × Nat :=
  (digits * Nat.pow 10 p.toNat * Nat.pow 2 (-unit).toNat,
    quarters * Nat.pow 2 unit.toNat * Nat.pow 10 (-p).toNat)

/-- Whether the decimal reads back to the target. -/
def readsBack (t : Target) (digits : Nat) (p : Int) : Bool :=
  let (a, l) := align digits p t.low t.unit
  let (b, h) := align digits p t.high t.unit
  if t.closed then l ≤ a && b ≤ h else l < a && b < h

/-- The distance of the decimal from the target, on a scale that depends on `p` and the target only. -/
def distance (t : Target) (digits : Nat) (p : Int) : Nat :=
  let (a, v) := align digits p t.value t.unit
  max a v - min a v

/-- The neighbour of the target on the grid `10 ^ p` that reads back, if there is one: the closer of
two, and of two equally close the one with the even digit. -/
def onGrid (t : Target) (p : Int) : Option Scientific :=
  let (one, v) := align 1 p t.value t.unit
  let below := v / one
  let candidates := [below, below + 1].filter (readsBack t · p)
  match candidates with
  | [] => none
  | [d] => some ⟨d, p⟩
  | d :: u :: _ =>
    if distance t d p < distance t u p then some ⟨d, p⟩
    else if distance t u p < distance t d p then some ⟨u, p⟩
    else if d % 2 = 0 then some ⟨d, p⟩ else some ⟨u, p⟩

/-- The exponent of the leading digit of the target: the first of the descending candidates `p`,
`p - 1`, … whose power of ten does not exceed it. -/
def leadingExponent (t : Target) : Nat → Int → Int
  | 0, p => p
  | fuel + 1, p =>
    let (one, v) := align 1 p t.value t.unit
    if one ≤ v then p else leadingExponent t fuel (p - 1)

def strip : Nat → Scientific → Scientific
  | 0, s => s
  | fuel + 1, s =>
    if s.digits % 10 = 0 ∧ s.digits ≠ 0 then strip fuel ⟨s.digits / 10, s.exponent + 1⟩ else s

/-- The shortest decimal for a positive double `significand · 2 ^ exponent`. Seventeen digits always
read back, so the last resort is never needed. -/
def digits (significand : Nat) (exponent : Int) : Scientific :=
  let t := Target.of significand exponent
  let lead := leadingExponent t 700 310
  let grids := (List.range 17).map fun (n : Nat) => lead - Int.ofNat n
  strip 20 ((grids.findSome? (onGrid t)).getD ⟨significand, exponent⟩)

end Shortest

/-! ## Layout -/

/-- The digits with a point after the first `k` of them; zeros fill the empty places. -/
def positional (digits : List Char) (k : Int) : List Char :=
  if k ≤ 0 then '0' :: '.' :: (List.replicate (-k).toNat '0' ++ digits)
  else if digits.length ≤ k.toNat then
    digits ++ List.replicate (k.toNat - digits.length) '0' ++ ['.', '0']
  else digits.take k.toNat ++ '.' :: digits.drop k.toNat

/-- The first digit, a point when more digits follow, and an exponent with a sign and at least two
digits. -/
def withExponent (digits : List Char) (e : Int) : List Char :=
  let mantissa :=
    match digits with
    | [] => ['0']
    | [d] => [d]
    | d :: rest => d :: '.' :: rest
  let size := Nat.toDigits 10 e.natAbs
  mantissa ++ 'e' :: (if e < 0 then '-' else '+') ::
    (if size.length < 2 then '0' :: size else size)

/-- A double in words: positional from 10⁻⁴ up to below 10¹⁶, with an exponent outside, and always with
a point or an exponent. -/
def Binary64.render (x : Binary64) : String :=
  match x.meaning with
  | .notANumber => "nan"
  | .infinite negative => if negative then "-inf" else "inf"
  | .finite negative significand exponent =>
    let sign := if negative then "-" else ""
    if significand = 0 then sign ++ "0.0"
    else
      let s := Shortest.digits significand exponent
      let ds := Nat.toDigits 10 s.digits
      let lead : Int := s.exponent + ds.length - 1
      let text := if -4 ≤ lead ∧ lead < 16 then positional ds (lead + 1) else withExponent ds lead
      sign ++ String.ofList text

end ChainLint.Decimal
