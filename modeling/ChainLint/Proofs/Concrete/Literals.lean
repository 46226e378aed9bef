import ChainLint.Proofs.Concrete.Escapes
import ChainLint.Proofs.Concrete.Positions
import ChainLint.Proofs.Concrete.Recursion

/-!
# What string literals stand for

A string literal is a row of fragments, plain text and escape sequences. What they stand for by the rules
of the language is a relation: an escape sequence stands for a code point in one of several ways, and a
character may be written in as many (`EscapeSequence.Denotes`). Lowering a literal follows the relation,
whatever fragments its text is made of (`stringValue_of_spells`). Surrogates are code points here, so that
the escapes of two halves stay two.
-/

namespace ChainLint.Concrete

open Text Utf8 Numeral

namespace EscapeSequence

/-! ## Escape sequences -/

/-- The characters with a short escape, and the code points that they stand for. -/
def shortEscapes : List (Char × Nat) :=
  [('n', 0x0a), ('t', 0x09), ('r', 0x0d), ('b', 0x08), ('f', 0x0c), ('v', 0x0b), ('0', 0)]

/-- A backslash leaves the character as it is. -/
structure StandsForItself (c : Char) : Prop where
  noMark : c ≠ 'x' ∧ c ≠ 'u'
  noDigit : ¬ ('0' ≤ c ∧ c ≤ '9')
  noLineEnd : c ∉ ['\n', '\r', '\u2028', '\u2029']
  noShort : c ∉ shortEscapes.map Prod.fst

/-- The code points that the text after a backslash stands for. -/
inductive Denotes : List Char → List CodePoint → Prop
  | short {c : Char} {p : CodePoint} (h : (c, p.val) ∈ shortEscapes) : Denotes [c] [p]
  | itself {c : Char} (h : StandsForItself c) : Denotes [c] [.ofChar c]
  | byte {ds : List Char} {p : CodePoint} (hlength : ds.length = 2) (h : ∀ d ∈ ds, IsHex d)
      (hp : hexNumber ds = p.val) : Denotes ('x' :: ds) [p]
  | unit {ds : List Char} {p : CodePoint} (hlength : ds.length = 4) (h : ∀ d ∈ ds, IsHex d)
      (hp : hexNumber ds = p.val) : Denotes ('u' :: ds) [p]
  | braces {ds : List Char} {p : CodePoint} (hne : ds ≠ []) (h : ∀ d ∈ ds, IsHex d)
      (hp : hexNumber ds = p.val) : Denotes ('u' :: '\x7b' :: (ds ++ ['\x7d'])) [p]
  /-- A line that goes on in the next one stands for nothing. -/
  | lineEnd {cs : List Char} (h : cs ∈ [['\n'], ['\r', '\n'], ['\r']]) : Denotes cs []

variable {body digits : List Char} {p : CodePoint}

theorem byNumber?_of_hex {marked : List Char} (hstrip : stripBraces marked = digits)
    (h : ∀ d ∈ digits, IsHex d) (hne : digits ≠ []) (hp : hexNumber digits = p.val) :
    byNumber? body marked = some [p] := by
  have hlt := p.isLt
  have hbounded : isBounded (p.val : Int) = true := by
    simp only [isBounded, Bool.and_eq_true, decide_eq_true_eq]
    omega
  rw [byNumber?, hstrip, readHexInteger?_of_hex h hne, hp]
  dsimp only
  rw [if_neg (by simp [hbounded]), if_neg (by omega), Int.toNat_natCast, CodePoint.ofNat?,
    dif_pos hlt]

theorem short?_eq_none {c : Char} (h : StandsForItself c) : short? c = none := by
  have hshort := h.noShort
  unfold short?
  split
  case h_8 => rfl
  all_goals exact absurd (by decide) hshort

theorem ofBody?_singleton {c : Char} (hx : c ≠ 'x') (hu : c ≠ 'u') (hn : c ≠ '\n') (hr : c ≠ '\r') :
    ofBody? [c] = some (((short? c).bind CodePoint.ofNat?).elim (plain [c]) fun p => [p]) := by
  unfold ofBody?
  split
  · exact absurd (List.cons.inj ‹_›).1 hx
  · exact absurd (List.cons.inj ‹_›).1 hu
  · exact absurd (List.cons.inj ‹_›).1 hn
  · cases ‹[c] = _›
  · exact absurd (List.cons.inj ‹_›).1 hr
  · obtain rfl := (List.cons.inj ‹_›).1
    cases (short? c).bind CodePoint.ofNat? <;> rfl
  · rename_i hno
    exact absurd rfl (hno c)

theorem ofBody?_of_denotes {points : List CodePoint} (h : Denotes body points) :
    ofBody? body = some points := by
  cases h with
  | @short c p h =>
      simp only [shortEscapes, List.mem_cons, Prod.mk.injEq, List.not_mem_nil, or_false] at h
      obtain ⟨n, hn⟩ := p
      rcases h with ⟨rfl, rfl⟩ | ⟨rfl, rfl⟩ | ⟨rfl, rfl⟩ | ⟨rfl, rfl⟩ | ⟨rfl, rfl⟩ | ⟨rfl, rfl⟩ |
        ⟨rfl, rfl⟩ <;> rfl
  | @itself c h =>
      obtain ⟨hx, hu⟩ := h.noMark
      have hends := h.noLineEnd
      have hn : c ≠ '\n' := by
        rintro rfl
        exact hends (by decide)
      have hr : c ≠ '\r' := by
        rintro rfl
        exact hends (by decide)
      rw [ofBody?_singleton hx hu hn hr, short?_eq_none h]
      rfl
  | @byte ds _ hlength h hp =>
      have hne : ds ≠ [] := by
        rintro rfl
        cases hlength
      exact byNumber?_of_hex (stripBraces_of_hex h) h hne hp
  | @unit ds _ hlength h hp =>
      have hne : ds ≠ [] := by
        rintro rfl
        cases hlength
      exact byNumber?_of_hex (stripBraces_of_hex h) h hne hp
  | @braces ds _ hne h hp => exact byNumber?_of_hex (stripBraces_braces h) h hne hp
  | lineEnd h =>
      simp only [List.mem_cons, List.not_mem_nil, or_false] at h
      rcases h with rfl | rfl | rfl <;> rfl

end EscapeSequence

/-! ## Fragments -/

namespace Fragment

/-- The code points that a fragment stands for. -/
inductive Denotes : Fragment → List CodePoint → Prop
  | plain (text : List Char) : Denotes (.plain text) (text.map CodePoint.ofChar)
  | escape {body : List Char} {points : List CodePoint} (h : EscapeSequence.Denotes body points) :
      Denotes (.escape ('\\' :: body)) points

/-- The characters of a fragment. -/
def chars : Fragment → List Char
  | .plain text => text
  | .escape sequence => sequence

def isEscape : Fragment → Bool
  | .plain _ => false
  | .escape _ => true

theorem points?_of_denotes {f : Fragment} {points : List CodePoint} (h : f.Denotes points) :
    f.points? = some points := by
  cases h with
  | plain text => rfl
  | escape h => exact EscapeSequence.ofBody?_of_denotes h

end Fragment

/-- Fragments in a row stand for code points in a row. -/
inductive Spells : List Fragment → List CodePoint → Prop
  | nil : Spells [] []
  | cons {f : Fragment} {fs : List Fragment} {points rest : List CodePoint} (h : f.Denotes points)
      (hs : Spells fs rest) : Spells (f :: fs) (points ++ rest)

theorem Spells.unique {fragments : List Fragment} {points points' : List CodePoint}
    (h : Spells fragments points) (h' : Spells fragments points') : points = points' := by
  induction h generalizing points' with
  | nil =>
      cases h'
      rfl
  | cons denotes _ ih =>
      cases h' with
      | cons denotes' hs' =>
          have hpoints := Fragment.points?_of_denotes denotes
          rw [Fragment.points?_of_denotes denotes'] at hpoints
          rw [Option.some.inj hpoints, ih hs']

/-- The part of a literal is where the fragment stands in the text. -/
structure Holds (source : String) (part : Tree) (f : Fragment) : Prop where
  kind : part.kind = "escape_sequence" ↔ f.isEscape = true
  text : ∃ i j, part.label.startByte = byteOffset source.toList i ∧
    part.label.endByte = byteOffset source.toList j ∧ (source.toList.take j).drop i = f.chars

/-- A part that reaches from one character to another. -/
theorem Holds.between {source : String} {part : Tree} {f : Fragment} (i j : Nat)
    (h : (part.kind = "escape_sequence" ↔ f.isEscape = true) ∧
      part.label.startByte = byteOffset source.toList i ∧
      part.label.endByte = byteOffset source.toList j ∧ (source.toList.take j).drop i = f.chars) :
    Holds source part f :=
  ⟨h.1, i, j, h.2⟩

namespace SourceText

variable {source : String} {part t : Tree} {fragments : List Fragment} {points : List CodePoint}

theorem fragment_of_holds {f : Fragment} (h : Holds source part f) :
    (ofString source).fragment part = .ok f := by
  obtain ⟨i, j, hstart, hstop, hchars⟩ := h.text
  have htext : (ofString source).textOf part.label = .ok f.chars := by
    rw [textOf, hstart, hstop, slice_byteOffset, hchars]
    rfl
  rw [fragment, htext, ok_bind]
  cases f with
  | plain text => rw [if_neg fun hkind => Bool.false_ne_true (h.kind.mp hkind)]; rfl
  | escape sequence => rw [if_pos (h.kind.mpr rfl)]; rfl

theorem fragmentPoints_of_denotes {f : Fragment} (holds : Holds source part f)
    (denotes : f.Denotes points) : (ofString source).fragmentPoints part = .ok points := by
  rw [fragmentPoints, fragment_of_holds holds, ok_bind, Fragment.points?_of_denotes denotes]
  rfl

theorem exists_points_of_spells {parts : List Tree} (holds : List.Forall₂ (Holds source) parts fragments)
    (spells : Spells fragments points) :
    ∃ pieces, parts.mapM (ofString source).fragmentPoints = .ok pieces ∧ pieces.flatten = points := by
  induction spells generalizing parts with
  | nil =>
      cases holds
      exact ⟨[], rfl, rfl⟩
  | @cons f fs ps rest denotes spells ih =>
      cases holds with
      | cons hpart hparts =>
          obtain ⟨pieces, hpieces, hflatten⟩ := ih hparts
          refine ⟨ps :: pieces, ?_, by rw [List.flatten_cons, hflatten]⟩
          rw [List.mapM_cons, fragmentPoints_of_denotes hpart denotes, ok_bind, hpieces]
          rfl

theorem stringValue_of_spells {parts : List Tree} (holds : List.Forall₂ (Holds source) parts fragments)
    (spells : Spells fragments points) : (ofString source).stringValue parts = .ok points := by
  obtain ⟨pieces, hpieces, hflatten⟩ := exists_points_of_spells holds spells
  rw [stringValue, hpieces, ← hflatten]
  rfl

/-- **String literals stand for what is written.** Whatever fragments a literal is made of, its value is
the row of code points that the fragments stand for, and its node has this value. -/
theorem literal_of_spells (source : String) {t : Tree} (kind : t.kind = "string")
    {fragments : List Fragment} (holds : List.Forall₂ (Holds source) t.children fragments)
    {points : List CodePoint} (spells : Spells fragments points) :
    (ofString source).stringValue t.children = .ok points ∧
      ∀ site, (ofString source).site t.label = .ok site →
        (ofString source).lower t = .ok (.literal site (.text points)) := by
  have hvalue := stringValue_of_spells holds spells
  refine ⟨hvalue, fun site hsite => ?_⟩
  have hrole : t.role = .text := by
    rw [Tree.role, kind]
    rfl
  have hoperands : t.operands = [] := by
    rw [Tree.operands, hrole]
  rw [lower_eq_recurse, recurse_eq, hoperands, List.mapM_nil]
  simp only [pure, Except.pure, ok_bind, build, hrole, hsite, hvalue]

/-- The literal `'é\x4A\u{01F600}\ud83d\ude00\n\q'`, broken in two lines before the last two escapes. -/
def mixedLiteral : Tree :=
  .node ⟨0, none, "string", 0, 36, 0, 0⟩
    [.node ⟨1, none, "string_fragment", 1, 3, 0, 1⟩ [],
      .node ⟨2, none, "escape_sequence", 3, 7, 0, 3⟩ [],
      .node ⟨3, none, "escape_sequence", 7, 17, 0, 7⟩ [],
      .node ⟨4, none, "escape_sequence", 17, 23, 0, 17⟩ [],
      .node ⟨5, none, "escape_sequence", 23, 29, 0, 23⟩ [],
      .node ⟨6, none, "escape_sequence", 29, 31, 0, 29⟩ [],
      .node ⟨7, none, "escape_sequence", 31, 33, 1, 0⟩ [],
      .node ⟨8, none, "escape_sequence", 33, 35, 1, 2⟩ []]

def mixedSource : String := "'é\\x4A\\u\x7b01F600\x7d\\ud83d\\ude00\\\n\\n\\q'"

def mixedFragments : List Fragment :=
  [.plain ['é'], .escape "\\x4A".toList, .escape "\\u\x7b01F600\x7d".toList, .escape "\\ud83d".toList,
    .escape "\\ude00".toList, .escape "\\\n".toList, .escape "\\n".toList, .escape "\\q".toList]

theorem holds_mixedLiteral : List.Forall₂ (Holds mixedSource) mixedLiteral.children mixedFragments :=
  .cons (.between 1 2 (by decide)) (.cons (.between 2 6 (by decide)) (.cons (.between 6 16 (by decide))
    (.cons (.between 16 22 (by decide)) (.cons (.between 22 28 (by decide))
      (.cons (.between 28 30 (by decide)) (.cons (.between 30 32 (by decide))
        (.cons (.between 32 34 (by decide)) .nil)))))))

theorem spells_mixedFragments :
    Spells mixedFragments
      [⟨0xe9, by decide⟩, ⟨0x4a, by decide⟩, ⟨0x1f600, by decide⟩, ⟨0xd83d, by decide⟩,
        ⟨0xde00, by decide⟩, ⟨0x0a, by decide⟩, ⟨0x71, by decide⟩] := by
  have hq : EscapeSequence.StandsForItself 'q' := ⟨by decide, by decide, by decide, by decide⟩
  have hbraces : EscapeSequence.Denotes ('u' :: '\x7b' :: ("01F600".toList ++ ['\x7d']))
      [⟨0x1f600, by decide⟩] :=
    .braces (by decide) (isHex_of_all (by decide)) rfl
  have hunit : ∀ (digits : String) (p : CodePoint), digits.toList.length = 4 →
      (digits.toList.all fun c => (hexValue? c).isSome) = true → hexNumber digits.toList = p.val →
      Fragment.Denotes (.escape ('\\' :: 'u' :: digits.toList)) [p] :=
    fun digits p hlength hall hp => .escape (.unit hlength (isHex_of_all hall) hp)
  exact .cons (.plain ['é']) (.cons (.escape (.byte rfl (isHex_of_all rfl) rfl))
    (.cons (.escape hbraces) (.cons (hunit "d83d" _ rfl rfl rfl) (.cons (hunit "de00" _ rfl rfl rfl)
      (.cons (.escape (.lineEnd (by decide))) (.cons (.escape (.short (by decide)))
        (.cons (.escape (.itself hq)) .nil)))))))

theorem literal_of_mixedFragments :
    (ofString mixedSource).lower mixedLiteral =
      .ok (.literal ⟨0, ⟨0, 35⟩, ⟨1, 0⟩⟩ (.text
        [⟨0xe9, by decide⟩, ⟨0x4a, by decide⟩, ⟨0x1f600, by decide⟩, ⟨0xd83d, by decide⟩,
          ⟨0xde00, by decide⟩, ⟨0x0a, by decide⟩, ⟨0x71, by decide⟩])) :=
  (literal_of_spells mixedSource rfl holds_mixedLiteral spells_mixedFragments).2 _ rfl

end SourceText

end ChainLint.Concrete
