import ChainLint.Proofs.Concrete.Literals
import ChainLint.Text.JsonString

/-!
# JSON literals as JavaScript reads them

A text is written as a JSON literal one UTF-16 code unit after the other. Each unit is written in one of
three ways (`WritesUnit`): a visible character as itself, a few with a short escape, and all others with
four digits. No two of them, and no other escape sequence of JavaScript, begin alike, so that there is one
way only to read a literal (`spells_of_splits`).
-/

namespace ChainLint

open Text Concrete Numeral

/-! ## UTF-16 -/

namespace Text

/-- The code units of a character: a character past U+FFFF has two, a high and a low surrogate. -/
def utf16 (c : Char) : List CodePoint :=
  if c.toNat < 0x10000 then [.ofChar c]
  else
    [⟨0xd800 + (c.toNat - 0x10000) / 0x400, by have := CodePoint.toNat_lt c; omega⟩,
      ⟨0xdc00 + (c.toNat - 0x10000) % 0x400, by omega⟩]

theorem utf16_eq_ofString {name : String} (h : ∀ c ∈ name.toList, c.toNat < 0x10000) :
    name.toList.flatMap utf16 = CodePoint.ofString name := by
  have hunit : ∀ c ∈ name.toList, utf16 c = [CodePoint.ofChar c] := fun c hc => if_pos (h c hc)
  rw [CodePoint.ofString, List.flatMap_congr hunit, List.map_eq_flatMap]

theorem CodePoint.ofChar_inj {c d : Char} (h : ofChar c = ofChar d) : c = d := by
  have hc := toChar?_ofChar c
  rw [h, toChar?_ofChar d] at hc
  exact (Option.some.inj hc).symm

/-- No character has a high surrogate as its code point. -/
theorem CodePoint.ofChar_val_ne (c : Char) (k : Nat) (hk : k < 0x400) : (ofChar c).val ≠ 0xd800 + k := by
  have h := c.valid
  simp only [UInt32.isValidChar, Nat.isValidChar] at h
  have hval : (ofChar c).val = c.val.toNat := rfl
  omega

theorem utf16_append_inj {c d : Char} {ps qs : List CodePoint} (h : utf16 c ++ ps = utf16 d ++ qs) :
    c = d ∧ ps = qs := by
  have hc := CodePoint.toNat_lt c
  have hd := CodePoint.toNat_lt d
  unfold utf16 at h
  split at h <;> split at h
  · obtain ⟨hunit, hrest⟩ := List.cons.inj h
    exact ⟨CodePoint.ofChar_inj hunit, hrest⟩
  · have hunit := congrArg CodePoint.val (List.cons.inj h).1
    exact absurd hunit (CodePoint.ofChar_val_ne c _ (by omega))
  · have hunit := congrArg CodePoint.val (List.cons.inj h).1
    exact absurd hunit.symm (CodePoint.ofChar_val_ne d _ (by omega))
  · simp only [List.cons_append, List.nil_append, List.cons.injEq, CodePoint.mk.injEq] at h
    obtain ⟨hhigh, hlow, hrest⟩ := h
    have hnumber : c.toNat = d.toNat := by omega
    refine ⟨?_, hrest⟩
    rw [← Char.ofNat_toNat c, hnumber, Char.ofNat_toNat]

theorem flatMap_utf16_inj {cs ds : List Char} (h : cs.flatMap utf16 = ds.flatMap utf16) : cs = ds := by
  have hsome : ∀ c : Char, utf16 c ≠ [] := by
    intro c
    unfold utf16
    split <;> simp
  induction cs generalizing ds with
  | nil =>
      cases ds with
      | nil => rfl
      | cons d ds => simp [hsome] at h
  | cons c cs ih =>
      cases ds with
      | nil => simp [hsome] at h
      | cons d ds =>
          rw [List.flatMap_cons, List.flatMap_cons] at h
          obtain ⟨rfl, hrest⟩ := utf16_append_inj h
          rw [ih hrest]

end Text

namespace Text.JsonString

/-! ## How units are written -/

/-- The characters after the backslash of a short escape. -/
def shortMarks : List Char := ['"', '\\', 'n', 'r', 't', 'f', 'b']

/-- What is written behind a backslash begins no other escape sequence and ends no line. -/
structure IsMark (e : Char) : Prop where
  ascii : e.toNat < 0x80
  notByte : e ≠ 'x'
  notUnit : e ≠ 'u'
  notOctal : ¬ EscapeSequence.IsOctal e
  notLineEnd : e ∉ ['\n', '\r', '\u2028', '\u2029']

theorem isMark_of_mem {e : Char} (h : e ∈ shortMarks) : IsMark e := by
  simp only [shortMarks, List.mem_cons, List.not_mem_nil, or_false] at h
  rcases h with rfl | rfl | rfl | rfl | rfl | rfl | rfl <;>
    exact ⟨by decide, by decide, by decide, by unfold EscapeSequence.IsOctal; decide, by decide⟩

/-- A code unit as it is written in a JSON literal. -/
inductive WritesUnit : CodePoint → List Char → Prop
  | plain {c : Char} (hvisible : ' ' ≤ c ∧ c ≤ '~') (hquote : c ≠ '"') (hslash : c ≠ '\\') :
      WritesUnit (.ofChar c) [c]
  | short {p : CodePoint} {e : Char} (hmark : e ∈ shortMarks) (h : EscapeSequence.Denotes [e] [p]) :
      WritesUnit p ['\\', e]
  | digits {p : CodePoint} (h : p.val < 0x10000) : WritesUnit p (unitEscape p.val)

/-- Code units in a row as they are written. -/
inductive Writes : List CodePoint → List Char → Prop
  | nil : Writes [] []
  | cons {p : CodePoint} {ps : List CodePoint} {text rest : List Char} (h : WritesUnit p text)
      (hs : Writes ps rest) : Writes (p :: ps) (text ++ rest)

theorem Writes.singleton {p : CodePoint} {text : List Char} (h : WritesUnit p text) :
    Writes [p] text := by
  rw [← List.append_nil text]
  exact .cons h .nil

theorem Writes.append {ps qs : List CodePoint} {text rest : List Char} (h : Writes ps text)
    (h' : Writes qs rest) : Writes (ps ++ qs) (text ++ rest) := by
  induction h with
  | nil => exact h'
  | cons hunit _ ih =>
      rw [List.cons_append, List.append_assoc]
      exact .cons hunit ih

theorem writesUnit_short {c e : Char} (h : shortEscape? c = some e) :
    c.toNat < 0x80 ∧ WritesUnit (.ofChar c) ['\\', e] := by
  have hshort : ∀ {d : Char} {n : Nat}, c.toNat = n → (d, n) ∈ EscapeSequence.shortEscapes →
      EscapeSequence.Denotes [d] [.ofChar c] := by
    rintro d n rfl hmem
    exact .short hmem
  have hitself : ∀ {d : Char}, c = d → d ∈ ['"', '\\'] → EscapeSequence.Denotes [d] [.ofChar c] := by
    rintro d rfl hmem
    simp only [List.mem_cons, List.not_mem_nil, or_false] at hmem
    rcases hmem with rfl | rfl <;> exact .itself ⟨by decide, by decide, by decide, by decide⟩
  unfold shortEscape? at h
  split_ifs at h with h₁ h₂ h₃ h₄ h₅ h₆ h₇ <;> obtain rfl := Option.some.inj h
  · exact ⟨by rw [h₁]; decide, .short (by decide) (hitself h₁ (by decide))⟩
  · exact ⟨by rw [h₂]; decide, .short (by decide) (hitself h₂ (by decide))⟩
  · exact ⟨by rw [h₃]; decide, .short (by decide) (hshort (congrArg Char.toNat h₃) (by decide))⟩
  · exact ⟨by rw [h₄]; decide, .short (by decide) (hshort (congrArg Char.toNat h₄) (by decide))⟩
  · exact ⟨by rw [h₅]; decide, .short (by decide) (hshort (congrArg Char.toNat h₅) (by decide))⟩
  · exact ⟨by omega, .short (by decide) (hshort h₆ (by decide))⟩
  · exact ⟨by omega, .short (by decide) (hshort h₇ (by decide))⟩

theorem writes_encodeChar (c : Char) : Writes (utf16 c) (encodeChar c) := by
  unfold encodeChar
  split
  · rename_i e hshort
    obtain ⟨hascii, hwrites⟩ := writesUnit_short hshort
    rw [utf16, if_pos (by omega)]
    exact .singleton hwrites
  · rename_i hnone
    split_ifs with hvisible hsmall
    · have hquote : c ≠ '"' := by
        rintro rfl
        cases hnone
      have hslash : c ≠ '\\' := by
        rintro rfl
        cases hnone
      have hle : c.toNat ≤ '~'.toNat := hvisible.2
      rw [utf16, if_pos (Nat.lt_of_le_of_lt hle (by decide))]
      exact .singleton (.plain hvisible hquote hslash)
    · rw [utf16, if_pos hsmall]
      exact .singleton (.digits hsmall)
    · have hlt := CodePoint.toNat_lt c
      rw [utf16, if_neg hsmall]
      refine .cons (.digits ?_) (.singleton (.digits ?_))
      · dsimp only
        omega
      · dsimp only
        omega

theorem writes_body (cs : List Char) : Writes (cs.flatMap utf16) (body cs) := by
  induction cs with
  | nil => exact .nil
  | cons c cs ih => exact (writes_encodeChar c).append ih

theorem digits_of_unitEscape {p : CodePoint} (h : p.val < 0x10000) :
    ∃ ds, unitEscape p.val = '\\' :: 'u' :: ds ∧ ds.length = 4 ∧ (∀ d ∈ ds, IsHex d) ∧
      hexNumber ds = p.val :=
  ⟨_, rfl, length_hexPadded (by decide) h, isHex_of_mem_hexPadded, hexNumber_hexPadded⟩

theorem ne_nil_of_writesUnit {p : CodePoint} {text : List Char} (h : WritesUnit p text) : text ≠ [] := by
  cases h <;> simp [unitEscape]

theorem ascii_of_writesUnit {p : CodePoint} {text : List Char} (h : WritesUnit p text) :
    ∀ c ∈ text, c.toNat < 0x80 := by
  cases h with
  | @plain c hvisible hquote hslash =>
      have hle : c.toNat ≤ '~'.toNat := hvisible.2
      exact List.forall_mem_singleton.mpr (Nat.lt_of_le_of_lt hle (by decide))
  | @short p e hmark h =>
      exact List.forall_mem_cons.mpr
        ⟨by decide, List.forall_mem_singleton.mpr (isMark_of_mem hmark).ascii⟩
  | digits h =>
      obtain ⟨ds, hds, -, hhex, -⟩ := digits_of_unitEscape h
      rw [hds]
      refine List.forall_mem_cons.mpr ⟨by decide, List.forall_mem_cons.mpr ⟨by decide, ?_⟩⟩
      intro d hd
      have hranges := (hhex d hd).ranges
      omega

theorem ascii_of_writes {ps : List CodePoint} {text : List Char} (h : Writes ps text) :
    ∀ c ∈ text, c.toNat < 0x80 := by
  induction h with
  | nil => exact nofun
  | cons hunit _ ih => exact List.forall_mem_append.mpr ⟨ascii_of_writesUnit hunit, ih⟩

/-! ## How units are read -/

theorem eq_nil_of_writes {ps : List CodePoint} (h : Writes ps []) : ps = [] := by
  generalize htext : [] = text at h
  cases h with
  | nil => rfl
  | cons hunit =>
      obtain ⟨hfirst, -⟩ := List.append_eq_nil_iff.mp htext.symm
      exact absurd hfirst (ne_nil_of_writesUnit hunit)

theorem exists_unit_of_writes {ps : List CodePoint} {c : Char} {text : List Char}
    (h : Writes ps (c :: text)) :
    ∃ p qs first rest, ps = p :: qs ∧ WritesUnit p first ∧ Writes qs rest ∧
      c :: text = first ++ rest := by
  generalize htext : c :: text = all at h
  cases h with
  | nil => cases htext
  | cons hunit hs => exact ⟨_, _, _, _, rfl, hunit, hs, rfl⟩

section

open EscapeSequence

variable {body rest rest' ds : List Char} {e : Char}

theorem body_eq_mark (hmark : e ∈ shortMarks) (written : Written body)
    (h : body ++ rest = e :: rest') : body = [e] ∧ rest = rest' := by
  obtain ⟨-, hx, hu, hoctal, hend⟩ := isMark_of_mem hmark
  cases written with
  | single => exact ⟨by rw [(List.cons.inj h).1], (List.cons.inj h).2⟩
  | octal hne _ hall =>
      obtain ⟨d, ds, rfl⟩ := List.exists_cons_of_ne_nil hne
      obtain rfl := (List.cons.inj h).1
      exact absurd (hall d (List.mem_cons_self ..)) hoctal
  | byte => exact absurd (List.cons.inj h).1.symm hx
  | unit => exact absurd (List.cons.inj h).1.symm hu
  | braces => exact absurd (List.cons.inj h).1.symm hu
  | lineEnd hcs =>
      simp only [List.mem_cons, List.not_mem_nil, or_false] at hcs
      rcases hcs with rfl | rfl | rfl | rfl | rfl <;> obtain rfl := (List.cons.inj h).1 <;>
        exact absurd (by decide) hend

theorem body_eq_digits (hlength : ds.length = 4) (hhex : ∀ d ∈ ds, IsHex d) (written : Written body)
    (h : body ++ rest = 'u' :: (ds ++ rest')) : body = 'u' :: ds ∧ rest = rest' := by
  cases written with
  | single _ hu => exact absurd (List.cons.inj h).1 hu
  | octal hne _ hall =>
      obtain ⟨d, ds, rfl⟩ := List.exists_cons_of_ne_nil hne
      obtain rfl := (List.cons.inj h).1
      exact absurd (hall 'u' (List.mem_cons_self ..)) (by unfold IsOctal; decide)
  | byte => exact absurd (List.cons.inj h).1 (by decide)
  | unit hlength' =>
      obtain ⟨rfl, hrest⟩ := List.append_inj (List.cons.inj h).2 (hlength'.trans hlength.symm)
      exact ⟨rfl, hrest⟩
  | braces =>
      cases ds with
      | nil => cases hlength
      | cons d ds =>
          obtain rfl := (List.cons.inj (List.cons.inj h).2).1
          exact absurd (hhex _ (List.mem_cons_self ..)) (by decide)
  | lineEnd hcs =>
      simp only [List.mem_cons, List.not_mem_nil, or_false] at hcs
      rcases hcs with rfl | rfl | rfl | rfl | rfl <;> exact absurd (List.cons.inj h).1 (by decide)

/-- An escape sequence in the text is that of the next unit. -/
theorem exists_unit_of_escape {ps : List CodePoint} (written : Written body)
    (h : Writes ps ('\\' :: (body ++ rest))) :
    ∃ p qs, ps = p :: qs ∧ EscapeSequence.Denotes body [p] ∧ Writes qs rest := by
  obtain ⟨p, qs, first, text, rfl, hunit, hs, heq⟩ := exists_unit_of_writes h
  cases hunit with
  | plain _ _ hslash => exact absurd (List.cons.inj heq).1.symm hslash
  | short hmark hdenotes =>
      obtain ⟨rfl, rfl⟩ := body_eq_mark hmark written (List.cons.inj heq).2
      exact ⟨p, qs, rfl, hdenotes, hs⟩
  | digits hsmall =>
      obtain ⟨ds, hds, hlength, hhex, hp⟩ := digits_of_unitEscape hsmall
      rw [hds] at heq
      obtain ⟨rfl, rfl⟩ := body_eq_digits hlength hhex written (List.cons.inj heq).2
      exact ⟨p, qs, rfl, .unit hlength hhex hp, hs⟩

/-- Characters other than the backslash are units of their own. -/
theorem exists_units_of_plain {text : List Char} (hplain : ∀ c ∈ text, c ≠ '\\') {ps : List CodePoint}
    (h : Writes ps (text ++ rest)) :
    ∃ qs, ps = text.map CodePoint.ofChar ++ qs ∧ Writes qs rest := by
  induction text generalizing ps with
  | nil => exact ⟨ps, rfl, h⟩
  | cons c text ih =>
      obtain ⟨hc, htext⟩ := List.forall_mem_cons.mp hplain
      obtain ⟨p, qs, first, tail, rfl, hunit, hs, heq⟩ := exists_unit_of_writes h
      cases hunit with
      | plain =>
          obtain ⟨rfl, rfl⟩ := List.cons.inj heq
          obtain ⟨qs', rfl, hs'⟩ := ih htext hs
          exact ⟨qs', rfl, hs'⟩
      | short => exact absurd (List.cons.inj heq).1 hc
      | digits => exact absurd (List.cons.inj heq).1 hc

end

/-! ## Literals in fragments -/

/-- The fragment is one of a literal in double quotes: plain text has no quote, no backslash and no end of
a line, and an escape sequence is written as the language has it. -/
inductive Proper : Fragment → Prop
  | plain {text : List Char} (h : ∀ c ∈ text, c ∉ ['"', '\\', '\n', '\r']) : Proper (.plain text)
  | escape {body : List Char} (h : EscapeSequence.Written body) : Proper (.escape ('\\' :: body))

/-- The literal, quotes included, is split into the fragments. -/
structure Splits (literal : List Char) (fragments : List Fragment) : Prop where
  text : literal = '"' :: (fragments.flatMap Fragment.chars ++ ['"'])
  proper : ∀ f ∈ fragments, Proper f

theorem spells_of_writes {fragments : List Fragment} (proper : ∀ f ∈ fragments, Proper f)
    {ps : List CodePoint} (h : Writes ps (fragments.flatMap Fragment.chars)) : Spells fragments ps := by
  induction fragments generalizing ps with
  | nil =>
      obtain rfl := eq_nil_of_writes h
      exact .nil
  | cons f fragments ih =>
      obtain ⟨hf, hfragments⟩ := List.forall_mem_cons.mp proper
      rw [List.flatMap_cons] at h
      cases hf with
      | @plain text hplain =>
          have hslash : ∀ c ∈ text, c ≠ '\\' := by
            rintro _ hc rfl
            exact hplain _ hc (by decide)
          obtain ⟨qs, rfl, hs⟩ := exists_units_of_plain hslash h
          exact .cons (.plain text) (ih hfragments hs)
      | escape written =>
          obtain ⟨p, qs, rfl, hdenotes, hs⟩ := exists_unit_of_escape written h
          exact .cons (.escape hdenotes) (ih hfragments hs)

theorem exists_proper_of_writesUnit {p : CodePoint} {text : List Char} (h : WritesUnit p text) :
    ∃ f : Fragment, f.chars = text ∧ Proper f := by
  cases h with
  | @plain c hvisible hquote hslash =>
      have hends : ¬ ' ' ≤ '\n' ∧ ¬ ' ' ≤ '\r' := by decide
      refine ⟨.plain [c], rfl, .plain (List.forall_mem_singleton.mpr ?_)⟩
      simp only [List.mem_cons, List.not_mem_nil, or_false]
      rintro (rfl | rfl | rfl | rfl)
      · exact hquote rfl
      · exact hslash rfl
      · exact hends.1 hvisible.1
      · exact hends.2 hvisible.1
  | @short p e hmark h =>
      obtain ⟨-, hx, hu, hoctal, -⟩ := isMark_of_mem hmark
      exact ⟨.escape ['\\', e], rfl, .escape (.single hx hu hoctal)⟩
  | digits h =>
      obtain ⟨ds, hds, hlength, hhex, -⟩ := digits_of_unitEscape h
      exact ⟨.escape ('\\' :: 'u' :: ds), hds.symm, .escape (.unit hlength hhex)⟩

theorem exists_proper_of_writes {ps : List CodePoint} {text : List Char} (h : Writes ps text) :
    ∃ fragments : List Fragment, fragments.flatMap Fragment.chars = text ∧
      ∀ f ∈ fragments, Proper f := by
  induction h with
  | nil => exact ⟨[], rfl, nofun⟩
  | cons hunit _ ih =>
      obtain ⟨f, hf, proper⟩ := exists_proper_of_writesUnit hunit
      obtain ⟨fragments, hfragments, hproper⟩ := ih
      refine ⟨f :: fragments, ?_, List.forall_mem_cons.mpr ⟨proper, hproper⟩⟩
      rw [List.flatMap_cons, hf, hfragments]

/-! ## The literal of a text -/

section

variable {name : String} {fragments : List Fragment}

theorem toList_encode (name : String) : (encode name).toList = '"' :: (body name.toList ++ ['"']) := by
  rw [encode, String.toList_ofList]
  rfl

theorem ascii_of_mem_encode : ∀ c ∈ (encode name).toList, c.toNat < 0x80 := by
  rw [toList_encode]
  exact List.forall_mem_cons.mpr ⟨by decide, List.forall_mem_append.mpr
    ⟨ascii_of_writes (writes_body name.toList), List.forall_mem_singleton.mpr (by decide)⟩⟩

theorem exists_splits_encode (name : String) : ∃ fragments, Splits (encode name).toList fragments := by
  obtain ⟨fragments, htext, proper⟩ := exists_proper_of_writes (writes_body name.toList)
  exact ⟨fragments, by rw [htext, toList_encode], proper⟩

/-- However the literal is split, the fragments spell the code units of the text. -/
theorem spells_of_splits (splits : Splits (encode name).toList fragments) :
    Spells fragments (name.toList.flatMap utf16) := by
  have htext := splits.text
  rw [toList_encode] at htext
  have hbody : body name.toList = fragments.flatMap Fragment.chars :=
    List.append_cancel_right (List.cons.inj htext).2
  exact spells_of_writes splits.proper (hbody ▸ writes_body name.toList)

theorem encode_inj {other : String} (h : encode other = encode name) : other = name := by
  obtain ⟨fragments, splits⟩ := exists_splits_encode name
  have hunits : other.toList.flatMap utf16 = name.toList.flatMap utf16 :=
    (spells_of_splits (h ▸ splits)).unique (spells_of_splits splits)
  exact String.toList_inj.mp (flatMap_utf16_inj hunits)

end

end Text.JsonString

end ChainLint
