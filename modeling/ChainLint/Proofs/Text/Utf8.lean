import Mathlib.Data.List.Basic
import ChainLint.Text.Utf8

/-!
# Texts and their bytes

The decoder reads back what the encoder writes (`decode_encode`), whatever follows. The bytes of the
first characters of a text are the first bytes of its form, so a character has a place in bytes,
`byteOffset`, and the bytes between two such places are those of the characters between them
(`extract_encode`). A newline is one byte that no other character contains, so newlines may be counted
and searched in either form.
-/

namespace ChainLint.Text.Utf8

/-! ## The four widths -/

section Widths

variable {c : Char}

theorem encodeChar_one (h : c.toNat < 0x80) : encodeChar c = [.ofNat c.toNat] := by
  simp only [encodeChar, if_pos h]

theorem encodeChar_two (hlow : 0x80 ≤ c.toNat) (hhigh : c.toNat < 0x800) :
    encodeChar c = [.ofNat (0xc0 + c.toNat / 0x40), .ofNat (0x80 + c.toNat % 0x40)] := by
  simp only [encodeChar, if_neg (Nat.not_lt.mpr hlow), if_pos hhigh]

theorem encodeChar_three (hlow : 0x800 ≤ c.toNat) (hhigh : c.toNat < 0x10000) :
    encodeChar c = [.ofNat (0xe0 + c.toNat / 0x1000), .ofNat (0x80 + c.toNat / 0x40 % 0x40),
      .ofNat (0x80 + c.toNat % 0x40)] := by
  simp only [encodeChar, if_neg (show ¬c.toNat < 0x80 by omega), if_neg (Nat.not_lt.mpr hlow),
    if_pos hhigh]

theorem encodeChar_four (hlow : 0x10000 ≤ c.toNat) :
    encodeChar c = [.ofNat (0xf0 + c.toNat / 0x40000), .ofNat (0x80 + c.toNat / 0x1000 % 0x40),
      .ofNat (0x80 + c.toNat / 0x40 % 0x40), .ofNat (0x80 + c.toNat % 0x40)] := by
  simp only [encodeChar, if_neg (show ¬c.toNat < 0x80 by omega),
    if_neg (show ¬c.toNat < 0x800 by omega), if_neg (Nat.not_lt.mpr hlow)]

end Widths

/-! ## Round trip -/

theorem toNat_continuation (n : Nat) : (UInt8.ofNat (0x80 + n % 0x40)).toNat = 0x80 + n % 0x40 :=
  UInt8.toNat_ofNat_of_lt' (by simp only [UInt8.size]; omega)

variable {pos start owed low high value : Nat} {lead : UInt8} {rest : List UInt8}

theorem decodeFrom_lead (hlead : 0x80 ≤ lead.toNat)
    (h : ofLead lead.toNat = some (owed, low, high, value)) :
    decodeFrom pos .between (lead :: rest) =
      decodeFrom (pos + 1) (.inside lead pos owed low high value) rest := by
  rw [decodeFrom, if_neg (by omega), h]

theorem decodeFrom_continuation (n : Nat) (howed : 1 < owed)
    (h : low ≤ 0x80 + n % 0x40 ∧ 0x80 + n % 0x40 ≤ high) :
    decodeFrom pos (.inside lead start owed low high value) (.ofNat (0x80 + n % 0x40) :: rest) =
      decodeFrom (pos + 1)
        (.inside lead start (owed - 1) 0x80 0xbf (value * 0x40 + n % 0x40)) rest := by
  rw [decodeFrom, toNat_continuation, if_pos h]
  simp only [if_neg (show ¬owed ≤ 1 by omega), Nat.add_sub_cancel_left]

theorem decodeFrom_last (n : Nat) (h : low ≤ 0x80 + n % 0x40 ∧ 0x80 + n % 0x40 ≤ high) :
    decodeFrom pos (.inside lead start 1 low high value) (.ofNat (0x80 + n % 0x40) :: rest) =
      (Char.ofNat (value * 0x40 + n % 0x40) :: ·) <$> decodeFrom (pos + 1) .between rest := by
  rw [decodeFrom, toNat_continuation, if_pos h]
  simp only [Nat.le_refl, if_true, Nat.add_sub_cancel_left]

/-- A character that is written as three bytes announces two more, and the range it announces for the
first of them is met: the form is not too long, and the character no surrogate. -/
theorem ofLead_three {v : Nat} (hlow : 0x800 ≤ v) (hhigh : v < 0x10000)
    (hvalid : v < 0xd800 ∨ 0xdfff < v) :
    ∃ low high, ofLead (0xe0 + v / 0x1000) = some (2, low, high, v / 0x1000) ∧
      low ≤ 0x80 + v / 0x40 % 0x40 ∧ 0x80 + v / 0x40 % 0x40 ≤ high := by
  by_cases h0 : v / 0x1000 = 0
  · exact ⟨0xa0, 0xbf, by rw [h0]; rfl, by omega, by omega⟩
  by_cases hd : v / 0x1000 = 0xd
  · exact ⟨0x80, 0x9f, by rw [hd]; rfl, by omega, by omega⟩
  refine ⟨0x80, 0xbf, ?_, by omega, by omega⟩
  rw [ofLead, if_neg (by omega), if_neg (by omega), if_neg (by omega), if_pos (by omega),
    Nat.add_sub_cancel_left]

theorem ofLead_four {v : Nat} (hlow : 0x10000 ≤ v) (hhigh : v < 0x110000) :
    ∃ low high, ofLead (0xf0 + v / 0x40000) = some (3, low, high, v / 0x40000) ∧
      low ≤ 0x80 + v / 0x1000 % 0x40 ∧ 0x80 + v / 0x1000 % 0x40 ≤ high := by
  by_cases h0 : v / 0x40000 = 0
  · exact ⟨0x90, 0xbf, by rw [h0]; rfl, by omega, by omega⟩
  by_cases h4 : v / 0x40000 = 4
  · exact ⟨0x80, 0x8f, by rw [h4]; rfl, by omega, by omega⟩
  refine ⟨0x80, 0xbf, ?_, by omega, by omega⟩
  rw [ofLead, if_neg (by omega), if_neg (by omega), if_neg (by omega), if_neg (by omega),
    if_neg (by omega), if_pos (by omega), Nat.add_sub_cancel_left]

theorem decodeFrom_two {v : Nat} (hlow : 0x80 ≤ v) (hhigh : v < 0x800) :
    decodeFrom pos .between (.ofNat (0xc0 + v / 0x40) :: .ofNat (0x80 + v % 0x40) :: rest) =
      (Char.ofNat v :: ·) <$> decodeFrom (pos + 2) .between rest := by
  have hbyte : (UInt8.ofNat (0xc0 + v / 0x40)).toNat = 0xc0 + v / 0x40 :=
    UInt8.toNat_ofNat_of_lt' (by simp only [UInt8.size]; omega)
  have hlead : ofLead (0xc0 + v / 0x40) = some (1, 0x80, 0xbf, v / 0x40) := by
    rw [ofLead, if_pos (by omega), Nat.add_sub_cancel_left]
  have hvalue : v / 0x40 * 0x40 + v % 0x40 = v := by omega
  rw [decodeFrom_lead (by omega) (hbyte ▸ hlead), decodeFrom_last _ (by omega), hvalue]

theorem decodeFrom_three {v : Nat} (hlow : 0x800 ≤ v) (hhigh : v < 0x10000)
    (hvalid : v < 0xd800 ∨ 0xdfff < v) :
    decodeFrom pos .between
        (.ofNat (0xe0 + v / 0x1000) :: .ofNat (0x80 + v / 0x40 % 0x40) ::
          .ofNat (0x80 + v % 0x40) :: rest) =
      (Char.ofNat v :: ·) <$> decodeFrom (pos + 3) .between rest := by
  have hbyte : (UInt8.ofNat (0xe0 + v / 0x1000)).toNat = 0xe0 + v / 0x1000 :=
    UInt8.toNat_ofNat_of_lt' (by simp only [UInt8.size]; omega)
  obtain ⟨low, high, hlead, hrange⟩ := ofLead_three hlow hhigh hvalid
  have hvalue : (v / 0x1000 * 0x40 + v / 0x40 % 0x40) * 0x40 + v % 0x40 = v := by omega
  rw [decodeFrom_lead (by omega) (hbyte ▸ hlead), decodeFrom_continuation _ (by omega) hrange,
    decodeFrom_last _ (by omega), hvalue]

theorem decodeFrom_four {v : Nat} (hlow : 0x10000 ≤ v) (hhigh : v < 0x110000) :
    decodeFrom pos .between
        (.ofNat (0xf0 + v / 0x40000) :: .ofNat (0x80 + v / 0x1000 % 0x40) ::
          .ofNat (0x80 + v / 0x40 % 0x40) :: .ofNat (0x80 + v % 0x40) :: rest) =
      (Char.ofNat v :: ·) <$> decodeFrom (pos + 4) .between rest := by
  have hbyte : (UInt8.ofNat (0xf0 + v / 0x40000)).toNat = 0xf0 + v / 0x40000 :=
    UInt8.toNat_ofNat_of_lt' (by simp only [UInt8.size]; omega)
  obtain ⟨low, high, hlead, hrange⟩ := ofLead_four hlow hhigh
  have hvalue : ((v / 0x40000 * 0x40 + v / 0x1000 % 0x40) * 0x40 + v / 0x40 % 0x40) * 0x40 +
      v % 0x40 = v := by omega
  rw [decodeFrom_lead (by omega) (hbyte ▸ hlead), decodeFrom_continuation _ (by omega) hrange,
    decodeFrom_continuation _ (by omega) (by omega), decodeFrom_last _ (by omega), hvalue]

/-- One character is read back, and decoding goes on behind it. -/
theorem decodeFrom_encodeChar (c : Char) (pos : Nat) (rest : List UInt8) :
    decodeFrom pos .between (encodeChar c ++ rest) =
      (c :: ·) <$> decodeFrom (pos + (encodeChar c).length) .between rest := by
  have hc : Char.ofNat c.toNat = c := Char.ofNat_toNat c
  -- That no surrogate is a character is what keeps three bytes clear of the forms refused after 0xed.
  have hvalid : c.toNat < 0xd800 ∨ 0xdfff < c.toNat ∧ c.toNat < 0x110000 := c.valid
  by_cases h1 : c.toNat < 0x80
  · have hbyte : (UInt8.ofNat c.toNat).toNat = c.toNat :=
      UInt8.toNat_ofNat_of_lt' (by simp only [UInt8.size]; omega)
    rw [encodeChar_one h1, List.singleton_append, decodeFrom, hbyte, if_pos h1, hc]
    rfl
  by_cases h2 : c.toNat < 0x800
  · have h := @decodeFrom_two pos rest c.toNat (by omega) h2
    rw [hc] at h
    rw [encodeChar_two (by omega) h2]
    exact h
  by_cases h3 : c.toNat < 0x10000
  · have h := @decodeFrom_three pos rest c.toNat (by omega) h3 (by omega)
    rw [hc] at h
    rw [encodeChar_three (by omega) h3]
    exact h
  · have h := @decodeFrom_four pos rest c.toNat (by omega) (by omega)
    rw [hc] at h
    rw [encodeChar_four (by omega)]
    exact h

theorem encode_cons (c : Char) (cs : List Char) : encode (c :: cs) = encodeChar c ++ encode cs :=
  List.flatMap_cons

theorem encode_append (cs ds : List Char) : encode (cs ++ ds) = encode cs ++ encode ds :=
  List.flatMap_append

theorem decodeFrom_encode (cs : List Char) (pos : Nat) :
    decodeFrom pos .between (encode cs) = .ok cs := by
  induction cs generalizing pos with
  | nil => rfl
  | cons c cs ih =>
      rw [encode_cons, decodeFrom_encodeChar, ih]
      rfl

/-- **Round trip**: decoding gives back every text from its bytes. -/
theorem decode_encode (cs : List Char) : decode (encode cs) = .ok cs := decodeFrom_encode cs 0

/-! ## Bytes of a part of a text -/

theorem length_encodeChar_pos (c : Char) : 0 < (encodeChar c).length := by
  unfold encodeChar
  dsimp only
  repeat' split
  all_goals exact Nat.succ_pos _

theorem length_le_length_encode (cs : List Char) : cs.length ≤ (encode cs).length := by
  induction cs with
  | nil => exact Nat.le_refl 0
  | cons c cs ih =>
      have hpos := length_encodeChar_pos c
      rw [encode_cons, List.length_append, List.length_cons]
      omega

/-- The place of a character in bytes: how many bytes the characters before it take. -/
def byteOffset (cs : List Char) (i : Nat) : Nat := (encode (cs.take i)).length

theorem encode_take_append_drop (cs : List Char) (i : Nat) :
    encode cs = encode (cs.take i) ++ encode (cs.drop i) := by
  rw [← encode_append, List.take_append_drop]

theorem take_encode (cs : List Char) (i : Nat) :
    (encode cs).take (byteOffset cs i) = encode (cs.take i) := by
  rw [encode_take_append_drop cs i]
  exact List.take_left' rfl

theorem drop_encode (cs : List Char) (i : Nat) :
    (encode cs).drop (byteOffset cs i) = encode (cs.drop i) := by
  rw [encode_take_append_drop cs i]
  exact List.drop_left' rfl

theorem byteOffset_le (cs : List Char) (i : Nat) : byteOffset cs i ≤ (encode cs).length := by
  rw [encode_take_append_drop cs i, List.length_append]
  exact Nat.le_add_right ..

theorem byteOffset_take {cs : List Char} {i j : Nat} (h : i ≤ j) :
    byteOffset (cs.take j) i = byteOffset cs i := by
  rw [byteOffset, byteOffset, List.take_take, Nat.min_eq_left h]

/-- The bytes between the places of two characters are those of the characters from the one up to the
other. -/
theorem extract_encode (cs : List Char) (i j : Nat) :
    ((encode cs).take (byteOffset cs j)).drop (byteOffset cs i) = encode ((cs.take j).drop i) := by
  rw [take_encode]
  rcases Nat.le_total i j with h | h
  · rw [← byteOffset_take h, drop_encode]
  · have hle : byteOffset cs j ≤ byteOffset cs i := by
      rw [← byteOffset_take h]
      exact byteOffset_le (cs.take i) j
    have hnil : (cs.take j).drop i = [] := List.drop_eq_nil_of_le (by rw [List.length_take]; omega)
    rw [List.drop_eq_nil_of_le hle, hnil]
    rfl

theorem byteOffset_cons_succ (c : Char) (cs : List Char) (i : Nat) :
    byteOffset (c :: cs) (i + 1) = (encodeChar c).length + byteOffset cs i := by
  rw [byteOffset, List.take_succ_cons, encode_cons, List.length_append, byteOffset]

/-- If a text has as many bytes as characters, all of its characters are single bytes. -/
theorem byteOffset_eq_of_length_eq {cs : List Char} (h : (encode cs).length = cs.length) {i : Nat}
    (hi : i ≤ cs.length) : byteOffset cs i = i := by
  have hfront := length_le_length_encode (cs.take i)
  have hback := length_le_length_encode (cs.drop i)
  rw [encode_take_append_drop cs i, List.length_append] at h
  rw [List.length_take] at hfront
  rw [List.length_drop] at hback
  rw [byteOffset]
  omega

/-! ## Lines -/

/-- The place just after the last newline, or the beginning if there is none. -/
def lineStart {α : Type} [BEq α] (newline : α) (xs : List α) : Nat :=
  xs.length - xs.reverse.idxOf newline

theorem lineStart_le {α : Type} [BEq α] (newline : α) (xs : List α) :
    lineStart newline xs ≤ xs.length :=
  Nat.sub_le ..

theorem lineStart_of_notMem {α : Type} [BEq α] [LawfulBEq α] {newline : α} {xs : List α}
    (h : newline ∉ xs) : lineStart newline xs = 0 := by
  rw [lineStart, List.idxOf_eq_length (by rwa [List.mem_reverse]), List.length_reverse, Nat.sub_self]

theorem lineStart_append_cons {α : Type} [BEq α] [LawfulBEq α] {newline : α} (front : List α)
    {line : List α} (h : newline ∉ line) :
    lineStart newline (front ++ newline :: line) = front.length + 1 := by
  have hreverse : (front ++ newline :: line).reverse = line.reverse ++ newline :: front.reverse := by
    simp
  rw [lineStart, hreverse, List.idxOf_append, if_neg (by rwa [List.mem_reverse]),
    List.idxOf_cons_self, List.length_reverse, List.length_append, List.length_cons]
  omega

/-- A list with a newline has a last one. -/
theorem exists_last_line {α : Type} {newline : α} {xs : List α} (h : newline ∈ xs) :
    ∃ front line, xs = front ++ newline :: line ∧ newline ∉ line := by
  obtain ⟨line, front, hreverse, hline⟩ := List.eq_append_cons_of_mem (List.mem_reverse.mpr h)
  refine ⟨front.reverse, line.reverse, ?_, by rwa [List.mem_reverse]⟩
  rw [← List.reverse_reverse xs, hreverse]
  simp

theorem lineStart_append_of_notMem {α : Type} [BEq α] [LawfulBEq α] {newline : α} (front : List α)
    {line : List α} (h : newline ∉ line) :
    lineStart newline (front ++ line) = lineStart newline front := by
  by_cases hfront : newline ∈ front
  · obtain ⟨before, rest, rfl, hrest⟩ := exists_last_line hfront
    have hnot : newline ∉ rest ++ line := by simp [hrest, h]
    rw [List.append_assoc, List.cons_append, lineStart_append_cons before hnot,
      lineStart_append_cons before hrest]
  · have hnot : newline ∉ front ++ line := by simp [hfront, h]
    rw [lineStart_of_notMem hnot, lineStart_of_notMem hfront]

theorem toNat_of_mem_encodeChar {c : Char} {b : UInt8} (h : 0x80 ≤ c.toNat)
    (hb : b ∈ encodeChar c) : 0x80 ≤ b.toNat := by
  have hvalid : c.toNat < 0xd800 ∨ 0xdfff < c.toNat ∧ c.toNat < 0x110000 := c.valid
  have hbyte : ∀ n, 0x80 ≤ n → n < 0x100 → b = .ofNat n → 0x80 ≤ b.toNat := by
    rintro n hlow hhigh rfl
    rw [UInt8.toNat_ofNat_of_lt' hhigh]
    exact hlow
  by_cases h2 : c.toNat < 0x800
  · rw [encodeChar_two h h2] at hb
    simp only [List.mem_cons, List.not_mem_nil, or_false] at hb
    rcases hb with hb | hb <;> exact hbyte _ (by omega) (by omega) hb
  by_cases h3 : c.toNat < 0x10000
  · rw [encodeChar_three (by omega) h3] at hb
    simp only [List.mem_cons, List.not_mem_nil, or_false] at hb
    rcases hb with hb | hb | hb <;> exact hbyte _ (by omega) (by omega) hb
  · rw [encodeChar_four (by omega)] at hb
    simp only [List.mem_cons, List.not_mem_nil, or_false] at hb
    rcases hb with hb | hb | hb | hb <;> exact hbyte _ (by omega) (by omega) hb

/-- A byte of the ASCII range is a character of its own. -/
theorem exists_byteOffset_of_ascii {cs : List Char} {k : Nat} {b : UInt8}
    (hb : (encode cs)[k]? = some b) (h : b.toNat < 0x80) :
    ∃ i < cs.length, byteOffset cs i = k ∧ byteOffset cs (i + 1) = k + 1 := by
  induction cs generalizing k with
  | nil => cases hb
  | cons c cs ih =>
      rw [encode_cons] at hb
      rcases Nat.lt_or_ge k (encodeChar c).length with hk | hk
      · rw [List.getElem?_append_left hk] at hb
        have hc : c.toNat < 0x80 := by
          by_contra hc
          have := toNat_of_mem_encodeChar (Nat.not_lt.mp hc) (List.mem_of_getElem? hb)
          omega
        rw [encodeChar_one hc, List.length_singleton, Nat.lt_one_iff] at hk
        subst hk
        refine ⟨0, Nat.succ_pos _, rfl, ?_⟩
        rw [byteOffset_cons_succ, encodeChar_one hc]
        rfl
      · rw [List.getElem?_append_right hk] at hb
        obtain ⟨i, hi, hstart, hstop⟩ := ih hb
        refine ⟨i + 1, Nat.succ_lt_succ hi, ?_, ?_⟩
        · rw [byteOffset_cons_succ, hstart]
          omega
        · rw [byteOffset_cons_succ, hstop]
          omega

/-- The newline byte is in no character but the newline. -/
theorem newline_notMem_encodeChar {c : Char} (h : c ≠ '\n') : 0x0a ∉ encodeChar c := by
  intro hmem
  by_cases h1 : c.toNat < 0x80
  · rw [encodeChar_one h1, List.mem_singleton] at hmem
    have hnat : (0x0a : UInt8).toNat = c.toNat := by
      rw [hmem, UInt8.toNat_ofNat_of_lt' (by simp only [UInt8.size]; omega)]
    exact h (Char.toNat_inj.mp hnat.symm)
  · have := toNat_of_mem_encodeChar (by omega) hmem
    exact absurd this (by decide)

theorem encode_newline_cons (cs : List Char) : encode ('\n' :: cs) = 0x0a :: encode cs := rfl

theorem newline_notMem_encode {cs : List Char} (h : '\n' ∉ cs) : 0x0a ∉ encode cs := by
  intro hmem
  obtain ⟨c, hc, hb⟩ := List.mem_flatMap.mp hmem
  exact newline_notMem_encodeChar (fun e => h (e ▸ hc)) hb

/-- Newlines may be counted in bytes. -/
theorem count_newline_encode (cs : List Char) : (encode cs).count 0x0a = cs.count '\n' := by
  induction cs with
  | nil => rfl
  | cons c cs ih =>
      by_cases h : c = '\n'
      · rw [h, encode_newline_cons, List.count_cons_self, List.count_cons_self, ih]
      · rw [encode_cons, List.count_append, List.count_eq_zero.mpr (newline_notMem_encodeChar h),
          List.count_cons_of_ne h, ih, Nat.zero_add]

/-- The line that a text ends in may be searched for in bytes. -/
theorem lineStart_encode (cs : List Char) :
    lineStart 0x0a (encode cs) = byteOffset cs (lineStart '\n' cs) := by
  by_cases h : '\n' ∈ cs
  · obtain ⟨front, line, rfl, hline⟩ := exists_last_line h
    have htake : (front ++ '\n' :: line).take (front.length + 1) = front ++ ['\n'] := by
      rw [List.append_cons]
      exact List.take_left' (by simp)
    rw [lineStart_append_cons front hline, byteOffset, htake, encode_append, encode_newline_cons,
      lineStart_append_cons _ (newline_notMem_encode hline), encode_append, List.length_append]
    rfl
  · rw [lineStart_of_notMem h, lineStart_of_notMem (newline_notMem_encode h)]
    rfl

end ChainLint.Text.Utf8
