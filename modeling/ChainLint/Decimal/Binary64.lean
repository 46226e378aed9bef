/-!
# Double precision numbers

A double precision number is kept as its 64 bits, so that equality is equality of bits and every
operation is integer arithmetic. This module takes the bits apart and rounds quotients of naturals to
the nearest double: the quotient is scaled to 53 bits (fewer at the bottom of the range), rounded to an
integer with ties going to the even neighbour, and a carry out of the significand runs into the
exponent field, which is exactly what the layout of the bits asks for.
-/

namespace ChainLint.Decimal

/-- A double precision number, by its bits. -/
structure Binary64 where
  bits : UInt64
  deriving Repr, DecidableEq

/-- What a double precision number stands for. -/
inductive Meaning where
  | notANumber
  | infinite (negative : Bool)
  /-- The number `± significand · 2 ^ exponent`. -/
  | finite (negative : Bool) (significand : Nat) (exponent : Int)
  deriving Repr, DecidableEq

namespace Binary64

/-- The number one above the last exponent field of a finite number. -/
def exponentLimit : Nat := 2047

/-- A significand field and a hidden bit in front of it. -/
def hidden : Nat := 0x10000000000000

/-- The exponent of the smallest positive number. -/
def leastExponent : Int := -1074

/-- The number with these fields; `magnitude` holds everything but the sign. -/
def ofFields (negative : Bool) (magnitude : Nat) : Binary64 :=
  ⟨.ofNat ((if negative then 0x8000000000000000 else 0) + magnitude)⟩

def infinity (negative : Bool) : Binary64 := ofFields negative (exponentLimit * hidden)

/-- The number that is none. -/
def nan : Binary64 := ofFields false (exponentLimit * hidden + hidden / 2)

def zero (negative : Bool) : Binary64 := ofFields negative 0

def meaning (x : Binary64) : Meaning :=
  let n := x.bits.toNat
  let negative := n / 0x8000000000000000 == 1
  let field := n / hidden % 2048
  let rest := n % hidden
  if field = exponentLimit then if rest = 0 then .infinite negative else .notANumber
  else if field = 0 then .finite negative rest leastExponent
  else .finite negative (hidden + rest) (leastExponent + (field - 1))

/-- The quotient rounded to an integer, a tie going to the even neighbour. -/
def roundDiv (num den : Nat) : Nat :=
  let q := num / den
  let r := num % den
  if 2 * r < den then q else if 2 * r > den then q + 1 else if q % 2 = 0 then q else q + 1

/-- `num / den` divided by `2 ^ e`, as numerator and denominator. -/
def scale (num den : Nat) (e : Int) : Nat × Nat :=
  if 0 ≤ e then (num, den * Nat.pow 2 e.toNat) else (num * Nat.pow 2 (-e).toNat, den)

/-- The unit of the last place for the quotient `num / den`, as a power of two: the one that leaves 53
bits before the point, but not below the unit of the smallest numbers. -/
def lastPlace (num den : Nat) : Int :=
  let e := max ((num.log2 : Int) - den.log2 - 52) leastExponent
  let (n, d) := scale num den e
  if n < d * hidden then max (e - 1) leastExponent else e

/-- The double nearest to `± num / den`, a tie going to the even significand. -/
def ofRatio (negative : Bool) (num den : Nat) : Binary64 :=
  if num = 0 then zero negative
  else
    let e := lastPlace num den
    let (n, d) := scale num den e
    let magnitude := (e - leastExponent).toNat * hidden + roundDiv n d
    if magnitude < exponentLimit * hidden then ofFields negative magnitude else infinity negative

/-- The double nearest to `± digits · 10 ^ exponent`. Exponents far outside the range are answered
without writing the power of ten out; `width` is the number of decimal digits of `digits`. -/
def ofDecimal (negative : Bool) (digits width : Nat) (exponent : Int) : Binary64 :=
  if digits = 0 then zero negative
  else if exponent > 400 then infinity negative
  else if exponent + width < -400 then zero negative
  else if 0 ≤ exponent then ofRatio negative (digits * Nat.pow 10 exponent.toNat) 1
  else ofRatio negative digits (Nat.pow 10 (-exponent).toNat)

end Binary64

end ChainLint.Decimal
