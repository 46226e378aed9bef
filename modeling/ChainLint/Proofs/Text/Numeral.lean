import Mathlib.Data.List.Forall2
import Mathlib.Data.List.Induction
import ChainLint.Numeral
import ChainLint.Text.Hex

/-!
# Reading digits

The readers of numbers settle the characters of a text, take blanks and a sign off it, and look for the
mark of a base. A text of plain digits and letters passes all this as it is (`readSigned?_of_plain`), and
its digits are read one by one (`readDigits?_of_reads`). `Nat.toDigits` writes a number in a base; the
values of its digits stand for the number, and only zero begins with a zero (`exists_digits_toDigits`).

The second half is about base sixteen, in which escape sequences are written.
-/

namespace ChainLint.Numeral

open Text

variable {base n : Nat} {c : Char} {cs : List Char} {ds : List Nat}

/-! ## Plain characters -/

/-- The character stands between the first digit and the last small letter. -/
def IsPlain (c : Char) : Prop := 48 ≤ c.toNat ∧ c.toNat ≤ 122

instance : DecidablePred IsPlain := fun c => inferInstanceAs (Decidable (48 ≤ c.toNat ∧ c.toNat ≤ 122))

theorem map_settle_of_plain (h : ∀ c ∈ cs, IsPlain c) : cs.map settle = cs := by
  refine (List.map_congr_left fun c hc => ?_).trans (List.map_id cs)
  have hrange := (h c hc).2
  rw [settle, if_pos (by omega)]
  rfl

theorem not_blank_of_plain (h : IsPlain c) : ¬ Property.isAsciiBlank c.toNat := by
  have hrange := h.1
  simp only [Property.isAsciiBlank, Bool.or_eq_true, Bool.and_eq_true, decide_eq_true_eq, beq_iff_eq]
  omega

theorem dropWhile_eq_self {p : Char → Bool} (h : ∀ c ∈ cs, ¬ p c) : cs.dropWhile p = cs := by
  cases cs with
  | nil => rfl
  | cons c cs => exact List.dropWhile_cons_of_neg (h c (List.mem_cons_self ..))

theorem trimBlanks_of_plain (h : ∀ c ∈ cs, IsPlain c) : trimBlanks cs = cs := by
  have hblank := fun c hc => not_blank_of_plain (h c hc)
  rw [trimBlanks, dropWhile_eq_self hblank,
    dropWhile_eq_self fun c hc => hblank c (List.mem_reverse.mp hc), List.reverse_reverse]

theorem splitSign_of_plain (h : ∀ c ∈ cs, IsPlain c) : splitSign cs = (false, cs) := by
  unfold splitSign
  split
  · exact absurd (h _ (List.mem_cons_self ..)) (by decide)
  · exact absurd (h _ (List.mem_cons_self ..)) (by decide)
  · rfl

theorem readSigned?_of_plain {natural? : List Char → Option Nat} (h : ∀ c ∈ cs, IsPlain c)
    (hn : natural? cs = some n) : readSigned? natural? cs = some (n : Int) := by
  rw [readSigned?, map_settle_of_plain h, trimBlanks_of_plain h, splitSign_of_plain h]
  dsimp only
  rw [hn]
  rfl

/-! ## Digits of a base -/

/-- The characters are digits of the base, with these values. -/
def Reads (base : Nat) : List Char → List Nat → Prop :=
  List.Forall₂ fun c d => digitIn? base c = some d

theorem digitIn?_underscore (base : Nat) : digitIn? base '_' = none :=
  if_neg (Nat.lt_irrefl base)

theorem readDigits?_of_reads (h : Reads base cs ds) (hne : cs ≠ []) : readDigits? base cs = some ds := by
  induction h with
  | nil => exact absurd rfl hne
  | @cons c d cs ds hc hcs ih =>
      match hcs with
      | .nil => simp [readDigits?, hc]
      | .cons (a := c') hc' _ =>
          have hnot : c' ≠ '_' := by
            rintro rfl
            rw [digitIn?_underscore] at hc'
            cases hc'
          rw [readDigits?, hc, ih (by simp)]
          · rfl
          · simp
          · intro rest hrest
            exact hnot (List.cons.inj hrest).1

theorem ofDigits_append_singleton (ds : List Nat) (d : Nat) :
    ofDigits base (ds ++ [d]) = ofDigits base ds * base + d := by
  simp [ofDigits]

/-- Zeros in front do not matter. -/
theorem ofDigits_zeros (k : Nat) (ds : List Nat) :
    ofDigits base (List.replicate k 0 ++ ds) = ofDigits base ds := by
  induction k with
  | zero => rfl
  | succ k ih =>
      rw [List.replicate_succ, List.cons_append, ← ih, ofDigits, List.foldl_cons, Nat.zero_mul]
      rfl

/-- The digits of a number stand for it. The first of them is no zero, unless the number is zero. -/
theorem exists_digits_toDigits (hbase : 1 < base) (n : Nat) :
    ∃ ds, Nat.toDigits base n = ds.map Nat.digitChar ∧ (∀ d ∈ ds, d < base) ∧ ds ≠ [] ∧
      ofDigits base ds = n ∧ (ds.head? = some 0 → n = 0) := by
  induction n using Nat.strongRecOn with
  | ind n ih =>
      rw [Nat.toDigits_eq_if hbase]
      split
      · rename_i hsmall
        refine ⟨[n], rfl, by simpa using hsmall, by simp, by simp [ofDigits], ?_⟩
        intro hzero
        exact Option.some.inj hzero
      · rename_i hlarge
        have hle : base ≤ n := Nat.not_lt.mp hlarge
        obtain ⟨ds, hdigits, hlt, hne, hvalue, hzero⟩ :=
          ih (n / base) (Nat.div_lt_self (by omega) hbase)
        refine ⟨ds ++ [n % base], by simp [hdigits], ?_, by simp, ?_, ?_⟩
        · intro d hd
          rcases List.mem_append.mp hd with hd | hd
          · exact hlt d hd
          · obtain rfl := List.mem_singleton.mp hd
            exact Nat.mod_lt n (by omega)
        · rw [ofDigits_append_singleton, hvalue, Nat.mul_comm]
          exact Nat.div_add_mod n base
        · -- The first digit is that of the quotient, which is not zero.
          rw [List.head?_append_of_ne_nil ds hne]
          intro hhead
          have hpos : 0 < n / base := Nat.div_pos hle (by omega)
          exact absurd (hzero hhead) (Nat.ne_of_gt hpos)

/-! ## Base sixteen -/

/-- The character is a hexadecimal digit. -/
def IsHex (c : Char) : Prop := (hexValue? c).isSome

instance : DecidablePred IsHex := fun c => inferInstanceAs (Decidable ((hexValue? c).isSome = true))

/-- The value of a hexadecimal digit. -/
def hexValue (c : Char) : Nat := (hexValue? c).getD 0

/-- The number that hexadecimal digits stand for. -/
def hexNumber (cs : List Char) : Nat := ofDigits 16 (cs.map hexValue)

/-- The digits of base sixteen are the hexadecimal ones. -/
theorem digitIn?_sixteen (c : Char) : digitIn? 16 c = hexValue? c := by
  have hranges : ∀ n : Nat,
      (let v := if 48 ≤ n ∧ n ≤ 57 then n - 48
        else if 97 ≤ n ∧ n ≤ 122 then n - 97 + 10
        else if 65 ≤ n ∧ n ≤ 90 then n - 65 + 10
        else 16
      if v < 16 then some v else none) =
        if 48 ≤ n ∧ n ≤ 57 then some (n - 48)
        else if 97 ≤ n ∧ n ≤ 102 then some (n - 97 + 10)
        else if 65 ≤ n ∧ n ≤ 70 then some (n - 65 + 10)
        else none := by
    grind
  exact hranges c.toNat

theorem IsHex.digitIn? (h : IsHex c) : digitIn? 16 c = some (hexValue c) := by
  obtain ⟨v, hv⟩ := Option.isSome_iff_exists.mp h
  rw [digitIn?_sixteen, hexValue, hv]
  rfl

theorem hexValue_lt (c : Char) : hexValue c < 16 := by
  have hranges : ∀ n : Nat,
      (if 48 ≤ n ∧ n ≤ 57 then some (n - 48)
        else if 97 ≤ n ∧ n ≤ 102 then some (n - 97 + 10)
        else if 65 ≤ n ∧ n ≤ 70 then some (n - 65 + 10)
        else none).getD 0 < 16 := by
    grind
  exact hranges c.toNat

theorem IsHex.ranges (h : IsHex c) :
    (48 ≤ c.toNat ∧ c.toNat ≤ 57) ∨ (97 ≤ c.toNat ∧ c.toNat ≤ 102) ∨
      (65 ≤ c.toNat ∧ c.toNat ≤ 70) := by
  unfold IsHex hexValue? at h
  split at h
  · exact .inl ‹_›
  · split at h
    · exact .inr (.inl ‹_›)
    · split at h
      · exact .inr (.inr ‹_›)
      · cases h

theorem IsHex.ne (h : IsHex c) {d : Char} (hd : ¬ IsHex d) : c ≠ d := by
  rintro rfl
  exact hd h

theorem isHex_of_all (h : (cs.all fun c => (hexValue? c).isSome) = true) : ∀ c ∈ cs, IsHex c :=
  List.all_eq_true.mp h

theorem IsHex.isPlain (h : IsHex c) : IsPlain c := by
  have hranges := h.ranges
  unfold IsPlain
  omega

theorem reads_of_hex (h : ∀ c ∈ cs, IsHex c) : Reads 16 cs (cs.map hexValue) :=
  List.forall₂_map_right_iff.mpr (List.forall₂_same.mpr fun c hc => (h c hc).digitIn?)

/-- The only mark of a base among hexadecimal digits is that of base two, which is not heeded. -/
theorem readHexadecimal?_of_hex (h : ∀ c ∈ cs, IsHex c) (hne : cs ≠ []) :
    readHexadecimal? cs = some (hexNumber cs) := by
  have hdigits : (readDigits? 16 cs).map (ofDigits 16) = some (hexNumber cs) := by
    rw [readDigits?_of_reads (reads_of_hex h) hne]
    rfl
  unfold readHexadecimal?
  split
  · rename_i rest hmark
    unfold radixMark? at hmark
    split at hmark
    · rename_i m rest'
      have hm := h m (by simp)
      have hx : ¬ (m = 'x' ∨ m = 'X') := by
        rintro (rfl | rfl) <;> exact absurd hm (by decide)
      rw [if_neg hx] at hmark
      split at hmark
      · cases hmark
      · split at hmark <;> cases hmark
    · cases hmark
  · exact hdigits

theorem readHexInteger?_of_hex (h : ∀ c ∈ cs, IsHex c) (hne : cs ≠ []) :
    readHexInteger? cs = some (hexNumber cs : Int) :=
  readSigned?_of_plain (fun c hc => (h c hc).isPlain) (readHexadecimal?_of_hex h hne)

theorem hexNumber_append_singleton (cs : List Char) (c : Char) :
    hexNumber (cs ++ [c]) = hexNumber cs * 16 + hexValue c := by
  rw [hexNumber, List.map_append, List.map_singleton, ofDigits_append_singleton]
  rfl

/-- A number stays below the power of sixteen for its digits. -/
theorem hexNumber_lt (cs : List Char) : hexNumber cs < Nat.pow 16 cs.length := by
  induction cs using List.reverseRecOn with
  | nil => exact Nat.one_pos
  | append_singleton cs c ih =>
      have hc := hexValue_lt c
      have hpow : Nat.pow 16 (cs ++ [c]).length = Nat.pow 16 cs.length * 16 := by
        rw [List.length_append]
        rfl
      rw [hexNumber_append_singleton]
      omega

theorem isHex_zero : IsHex '0' := by decide

theorem hexNumber_zeros (k : Nat) (cs : List Char) :
    hexNumber (List.replicate k '0' ++ cs) = hexNumber cs := by
  rw [hexNumber, List.map_append, List.map_replicate]
  exact ofDigits_zeros k _

theorem isHex_digitChar : ∀ d < 16, IsHex d.digitChar := by decide

theorem hexValue_digitChar : ∀ d < 16, hexValue d.digitChar = d := by decide

theorem isHex_of_mem_hexDigits (n : Nat) : ∀ d ∈ hexDigits n, IsHex d := by
  obtain ⟨ds, hdigits, hlt, -⟩ := exists_digits_toDigits (show 1 < 16 by decide) n
  rw [hexDigits, hdigits]
  exact List.forall_mem_map.mpr fun d hd => isHex_digitChar d (hlt d hd)

theorem hexNumber_hexDigits (n : Nat) : hexNumber (hexDigits n) = n := by
  obtain ⟨ds, hdigits, hlt, -, hvalue, -⟩ := exists_digits_toDigits (show 1 < 16 by decide) n
  have hvalues : (ds.map Nat.digitChar).map hexValue = ds := by
    rw [List.map_map]
    exact (List.map_congr_left fun d hd => hexValue_digitChar d (hlt d hd)).trans (List.map_id ds)
  rw [hexDigits, hdigits, hexNumber, hvalues, hvalue]

section

variable {width : Nat}

theorem isHex_of_mem_hexPadded : ∀ d ∈ (hexPadded width n).toList, IsHex d := by
  intro d hd
  rw [hexPadded, String.toList_ofList] at hd
  rcases List.mem_append.mp hd with hd | hd
  · rw [List.eq_of_mem_replicate hd]
    exact isHex_zero
  · exact isHex_of_mem_hexDigits n d hd

theorem hexNumber_hexPadded : hexNumber (hexPadded width n).toList = n := by
  rw [hexPadded, String.toList_ofList, hexNumber_zeros, hexNumber_hexDigits]

/-- A number that fits has as many digits as there is room. -/
theorem length_hexPadded (hwidth : 0 < width) (h : n < Nat.pow 16 width) :
    (hexPadded width n).toList.length = width := by
  have hlength : (hexDigits n).length ≤ width :=
    (Nat.length_toDigits_le_iff (by decide) hwidth).mpr h
  rw [hexPadded, String.toList_ofList, List.length_append, List.length_replicate]
  omega

end

end ChainLint.Numeral
