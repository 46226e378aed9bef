/-!
# Code points

The value of a string literal is a sequence of Unicode code points in which a surrogate may stand on
its own: the two halves of a pair written as two escapes stay two code points. `CodePoint` is that
alphabet. Names and source text never hold a surrogate and are ordinary strings; `CodePoint.ofString`
and `CodePoint.toString?` go from one to the other.
-/

namespace ChainLint.Text

/-- A Unicode code point, surrogates included. -/
structure CodePoint where
  val : Nat
  isLt : val < 0x110000
  deriving Repr, DecidableEq

namespace CodePoint

/-- The code point of a number, if the number is one. -/
def ofNat? (n : Nat) : Option CodePoint :=
  if h : n < 0x110000 then some ⟨n, h⟩ else none

theorem toNat_lt (c : Char) : c.toNat < 0x110000 := by
  have h := c.valid
  simp only [UInt32.isValidChar, Nat.isValidChar] at h
  have : c.toNat = c.val.toNat := rfl
  omega

/-- The character of a number that is valid for one has this number. -/
theorem toNat_ofNat {n : Nat} (h : n.isValidChar) : (Char.ofNat n).toNat = n := by
  rw [Char.ofNat, dif_pos h]
  rfl

/-- Every character is a code point. -/
def ofChar (c : Char) : CodePoint := ⟨c.toNat, toNat_lt c⟩

/-- A code point that is not a surrogate is a character. -/
def toChar? (p : CodePoint) : Option Char :=
  if 0xd800 ≤ p.val ∧ p.val ≤ 0xdfff then none else some (Char.ofNat p.val)

/-- The code points of a string. -/
def ofString (s : String) : List CodePoint := s.toList.map ofChar

/-- The string with these code points, if none of them is a surrogate. -/
def toString? (ps : List CodePoint) : Option String := (ps.mapM toChar?).map String.ofList

theorem toChar?_ofChar (c : Char) : (ofChar c).toChar? = some c := by
  have h := c.valid
  simp only [UInt32.isValidChar, Nat.isValidChar] at h
  have e : (ofChar c).val = c.val.toNat := rfl
  have hn : ¬ (0xd800 ≤ (ofChar c).val ∧ (ofChar c).val ≤ 0xdfff) := by omega
  rw [toChar?, if_neg hn]
  exact congrArg some (Char.ofNat_toNat c)

/-- A code point is read as the character that it is the code point of. -/
theorem toChar?_eq_some_iff {p : CodePoint} {c : Char} : p.toChar? = some c ↔ p = ofChar c := by
  constructor
  · intro h
    unfold toChar? at h
    split at h
    · cases h
    · rename_i hsurrogate
      obtain rfl := Option.some.inj h
      have hvalid : p.val.isValidChar := by
        have := p.isLt
        unfold Nat.isValidChar
        omega
      cases p
      simp only [ofChar, toNat_ofNat hvalid]
  · rintro rfl
    exact toChar?_ofChar c

/-- Going to code points and back is the identity on strings. -/
theorem toString?_ofString (s : String) : toString? (ofString s) = some s := by
  have h (l : List Char) : (l.map ofChar).mapM toChar? = some l := by
    induction l with
    | nil => rfl
    | cons c r ih => simp [toChar?_ofChar, ih]
  simp [toString?, ofString, h]

/-- Code points are read as the string that they are the code points of. -/
theorem toString?_eq_some_iff {ps : List CodePoint} {s : String} :
    toString? ps = some s ↔ ps = ofString s := by
  constructor
  · intro h
    obtain ⟨cs, hcs, rfl⟩ := Option.map_eq_some_iff.mp h
    rw [ofString, String.toList_ofList]
    clear h
    induction ps generalizing cs with
    | nil => simp_all
    | cons p ps ih =>
      simp only [List.mapM_cons, Option.bind_eq_bind, Option.bind_eq_some_iff, Option.pure_def,
        Option.some.injEq] at hcs
      obtain ⟨c, hc, rest, hrest, rfl⟩ := hcs
      rw [List.map_cons, ← ih rest hrest, toChar?_eq_some_iff.mp hc]
  · rintro rfl
    exact toString?_ofString s

end CodePoint

end ChainLint.Text
