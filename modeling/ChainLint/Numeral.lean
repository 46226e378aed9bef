import ChainLint.Decimal.Binary64
import ChainLint.Text.Property.Blank
import ChainLint.Text.Property.Digit

/-!
# Numbers in text

The readers of integers and reals. Both first settle every character: decimal digits of any script
become ASCII digits and white space becomes a plain space, after which a sign, the digits and surrounding
blanks are read as ASCII. Single underscores may separate digits. An integer in base ten has at most
`digitLimit` digits and no superfluous leading zero unless it is zero.
-/

namespace ChainLint.Numeral

open ChainLint.Decimal ChainLint.Text

/-! ## Characters -/

/-- A character as the readers see it; the question mark stands for all that has no part in a number. -/
def settle (c : Char) : Char :=
  if c.toNat < 127 then c
  else if Property.isNumeralBlank c.toNat then ' '
  else
    match Property.digitValue? c.toNat with
    | some d => Char.ofNat ('0'.toNat + d)
    | none => '?'

/-- The text without the blanks around it. -/
def trimBlanks (cs : List Char) : List Char :=
  let blank := fun c : Char => Property.isAsciiBlank c.toNat
  ((cs.dropWhile blank).reverse.dropWhile blank).reverse

/-- The value of a digit of a base up to sixteen. -/
def digitIn? (base : Nat) (c : Char) : Option Nat :=
  let v :=
    if '0' ≤ c ∧ c ≤ '9' then c.toNat - '0'.toNat
    else if 'a' ≤ c ∧ c ≤ 'z' then c.toNat - 'a'.toNat + 10
    else if 'A' ≤ c ∧ c ≤ 'Z' then c.toNat - 'A'.toNat + 10
    else base
  if v < base then some v else none

/-- A sign in front of a number: whether it is a minus, and what follows it. -/
def splitSign : List Char → Bool × List Char
  | '-' :: rest => (true, rest)
  | '+' :: rest => (false, rest)
  | rest => (false, rest)

/-! ## Integers -/

/-- A non-empty run of digits in which single underscores may stand between two digits. -/
def readDigits? (base : Nat) : List Char → Option (List Nat)
  | [] => none
  | [c] => (digitIn? base c).map ([·])
  | c :: '_' :: rest => do return (← digitIn? base c) :: (← readDigits? base rest)
  | c :: rest => do return (← digitIn? base c) :: (← readDigits? base rest)

/-- The number that digits stand for, most significant digit first. -/
def ofDigits (base : Nat) (digits : List Nat) : Nat := digits.foldl (fun v d => v * base + d) 0

/-- The base announced by `0x`, `0o` or `0b` in either case, and the text after the mark. -/
def radixMark? : List Char → Option (Nat × List Char)
  | '0' :: m :: rest =>
    if m = 'x' ∨ m = 'X' then some (16, rest)
    else if m = 'o' ∨ m = 'O' then some (8, rest)
    else if m = 'b' ∨ m = 'B' then some (2, rest)
    else none
  | _ => none

/-- One underscore may follow the mark of a base. -/
def dropSeparator : List Char → List Char
  | '_' :: rest => rest
  | rest => rest

/-- The most digits that an integer in base ten may have. -/
def digitLimit : Nat := 4300

/-- An integer in base ten: not too long, and without leading zeros unless it is zero. -/
def readDecimal? (cs : List Char) : Option Nat := do
  let digits ← readDigits? 10 cs
  let n := ofDigits 10 digits
  if digits.length > digitLimit then none
  else if digits.head? = some 0 ∧ n ≠ 0 then none
  else some n

/-- A natural number in the base that its mark announces, base ten without a mark. -/
def readMarked? (cs : List Char) : Option Nat :=
  match radixMark? cs with
  | some (base, rest) => (readDigits? base (dropSeparator rest)).map (ofDigits base)
  | none => readDecimal? cs

/-- A natural number in base sixteen, with or without the mark of that base. -/
def readHexadecimal? (cs : List Char) : Option Nat :=
  match radixMark? cs with
  | some (16, rest) => (readDigits? 16 (dropSeparator rest)).map (ofDigits 16)
  | _ => (readDigits? 16 cs).map (ofDigits 16)

/-- A signed number around a reader of natural numbers. -/
def readSigned? (natural? : List Char → Option Nat) (cs : List Char) : Option Int :=
  let (negative, body) := splitSign (trimBlanks (cs.map settle))
  (natural? body).map fun n => if negative then -(n : Int) else n

def readInteger? (cs : List Char) : Option Int := readSigned? readMarked? cs

def readHexInteger? (cs : List Char) : Option Int := readSigned? readHexadecimal? cs

/-- An integer in base ten, where leading zeros do not matter. -/
def readPlainInteger? (cs : List Char) : Option Int :=
  readSigned? (fun body => do
    let digits ← readDigits? 10 body
    if digits.length > digitLimit then none else some (ofDigits 10 digits)) cs

/-! ## Reals -/

/-- The values of leading ASCII digits, and the text after them. -/
def spanDigits (cs : List Char) : List Nat × List Char :=
  let digit := fun c : Char => '0' ≤ c && c ≤ '9'
  ((cs.takeWhile digit).map (fun c => c.toNat - '0'.toNat), cs.dropWhile digit)

/-- An exponent part that takes up the whole text, or nothing at all. -/
def readExponent? : List Char → Option Int
  | [] => some 0
  | c :: rest =>
    if c = 'e' ∨ c = 'E' then
      let (negative, body) := splitSign rest
      match spanDigits body with
      | ([], _) => none
      | (digits, []) =>
        let n : Int := ofDigits 10 digits
        some (if negative then -n else n)
      | _ => none
    else none

/-- Digits with a point among, before or after them, and an exponent. -/
def readPositional? (negative : Bool) (cs : List Char) : Option Binary64 := do
  let (whole, rest) := spanDigits cs
  let (fraction, rest) :=
    match rest with
    | '.' :: more => spanDigits more
    | _ => ([], rest)
  let digits := whole ++ fraction
  let exponent ← readExponent? rest
  if digits.isEmpty then none
  else
    some (.ofDecimal negative (ofDigits 10 digits) digits.length (exponent - fraction.length))

/-- A real number, or one of the words for infinity and for no number, in any case. -/
def readReal? (cs : List Char) : Option Binary64 :=
  let (negative, body) := splitSign (trimBlanks (cs.map settle))
  let word := String.ofList (body.map Char.toLower)
  if word = "inf" ∨ word = "infinity" then some (.infinity negative)
  else if word = "nan" then some .nan
  else readPositional? negative body

end ChainLint.Numeral
