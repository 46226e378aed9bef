import Mathlib.Tactic.MkIffOfInductiveProp
import ChainLint.Proofs.Concrete.Containment
import ChainLint.Proofs.Concrete.Positions

/-!
# How a tree is laid out in its text

A parser's tree covers its text in good order: children stand inside their parent and one after the
other, and parentheses stand at the two ends of what they enclose (`WellPlaced`). So the ranges of two
nodes are nested like the nodes themselves, or they lie apart (`nested_or_apart`), and what stands in
parentheses is strictly between the two.

Both facts are about bytes. They pass to characters because later bytes do not belong to earlier
characters (`offset_mono`), and a parenthesis is a character of its own (`offset_succ_of_ascii`).
-/

namespace ChainLint.Concrete

open Text Utf8

namespace SourceText

/-! ## Offsets in order -/

theorem le_of_mem_replicates {cs : List Char} {k i : Nat}
    (h : i ∈ (cs.zipIdx k).flatMap fun (c, i) => List.replicate (encodeChar c).length i) :
    k ≤ i ∧ i < k + cs.length := by
  obtain ⟨⟨c, j⟩, hj, hi⟩ := List.mem_flatMap.mp h
  obtain rfl := List.eq_of_mem_replicate hi
  obtain ⟨hle, hlt, -⟩ := List.mem_zipIdx hj
  exact ⟨hle, by omega⟩

theorem pairwise_replicates (cs : List Char) (k : Nat) :
    ((cs.zipIdx k).flatMap fun (c, i) => List.replicate (encodeChar c).length i).Pairwise
      (· ≤ ·) := by
  induction cs generalizing k with
  | nil => exact List.Pairwise.nil
  | cons c cs ih =>
      rw [List.zipIdx_cons, List.flatMap_cons, List.pairwise_append]
      refine ⟨List.pairwise_replicate.mpr (.inr (Nat.le_refl k)), ih (k + 1), fun a ha b hb => ?_⟩
      obtain rfl := List.eq_of_mem_replicate ha
      have hle := (le_of_mem_replicates hb).1
      omega

/-- The table of a text is sorted. -/
theorem pairwise_charTable (cs : List Char) : (charTable cs).Pairwise (· ≤ ·) := by
  rw [charTable, List.pairwise_append]
  refine ⟨pairwise_replicates cs 0, List.pairwise_singleton .., fun a ha b hb => ?_⟩
  obtain rfl := List.mem_singleton.mp hb
  have hlt := (le_of_mem_replicates ha).2
  omega

theorem sorted_of_charAt {source : String} {table : Array Nat}
    (h : (ofString source).charAt = some table) : table.toList.Pairwise (· ≤ ·) := by
  unfold ofString at h
  dsimp only at h
  split at h
  · cases h
  · obtain rfl := Option.some.inj h
    exact pairwise_charTable _

theorem exists_entry_of_offset {s : SourceText} {table : Array Nat} (htable : s.charAt = some table)
    {k : Nat} {a : Int} (h : s.offset k = .ok a) : ∃ hk : k < table.size, a = table[k] := by
  unfold offset offset? at h
  rw [htable] at h
  simp only [fromEitherEnd?_natCast] at h
  cases hk : table[k]? with
  | none =>
      rw [hk] at h
      cases h
  | some x =>
      rw [hk] at h
      obtain rfl := Except.ok.inj h
      obtain ⟨hlt, rfl⟩ := Array.getElem?_eq_some_iff.mp hk
      exact ⟨hlt, rfl⟩

theorem offset_mono {source : String} {j k : Nat} {a b : Int} (h : j ≤ k)
    (ha : (ofString source).offset j = .ok a) (hb : (ofString source).offset k = .ok b) :
    a ≤ b := by
  cases htable : (ofString source).charAt with
  | none =>
      unfold offset offset? at ha hb
      rw [htable] at ha hb
      obtain rfl := Except.ok.inj ha
      obtain rfl := Except.ok.inj hb
      omega
  | some table =>
      obtain ⟨hj, rfl⟩ := exists_entry_of_offset htable ha
      obtain ⟨hk, rfl⟩ := exists_entry_of_offset htable hb
      rcases Nat.eq_or_lt_of_le h with rfl | hlt
      · exact Int.le_refl _
      · have hsorted := List.pairwise_iff_getElem.mp (sorted_of_charAt htable)
        exact Int.ofNat_le.mpr (hsorted j k hj hk hlt)

/-- A byte of the ASCII range is a character of its own. -/
theorem offset_succ_of_ascii {source : String} {k : Nat} {b : UInt8}
    (hb : (encode source.toList)[k]? = some b) (h : b.toNat < 0x80) :
    ∃ a, (ofString source).offset k = .ok a ∧ (ofString source).offset (k + 1 : Nat) = .ok (a + 1) := by
  obtain ⟨i, hi, hstart, hstop⟩ := exists_byteOffset_of_ascii hb h
  refine ⟨i, ?_, ?_⟩
  · rw [← hstart, offset_byteOffset source (Nat.le_of_lt hi)]
  · rw [← hstop, offset_byteOffset source hi]
    rfl

/-- A site begins and ends where the label does. -/
theorem offset_of_site {s : SourceText} {l : Label} {site : Site} (h : s.site l = .ok site) :
    s.offset l.startByte = .ok site.span.start ∧ s.offset l.endByte = .ok site.span.stop := by
  obtain ⟨start, hstart, h⟩ := exists_of_bind_eq_ok h
  obtain ⟨stop, hstop, h⟩ := exists_of_bind_eq_ok h
  obtain ⟨lineStart, -, h⟩ := exists_of_bind_eq_ok h
  obtain rfl := Except.ok.inj h
  exact ⟨hstart, hstop⟩

/-! ## Ranges in characters -/

/-- The second range is the first one in characters instead of bytes. -/
def Translates (s : SourceText) (bytes span : Span) : Prop :=
  s.offset bytes.start = .ok span.start ∧ s.offset bytes.stop = .ok span.stop

theorem Translates.unique {s : SourceText} {bytes span span' : Span}
    (h : s.Translates bytes span) (h' : s.Translates bytes span') : span = span' := by
  obtain ⟨start, stop⟩ := span
  obtain ⟨start', stop'⟩ := span'
  obtain rfl : start = start' := Except.ok.inj (h.1.symm.trans h'.1)
  obtain rfl : stop = stop' := Except.ok.inj (h.2.symm.trans h'.2)
  rfl

/-- A pair of parentheses in characters: the byte next to each of the two is the next character. -/
theorem exists_parentheses {source : String} {l : Label}
    (opening : (encode source.toList)[l.startByte]? = some 0x28)
    (closing : l.startByte + 1 < l.endByte ∧
      (encode source.toList)[l.endByte - 1]? = some 0x29) :
    ∃ pair, (ofString source).Translates ⟨l.startByte, l.endByte⟩ pair ∧
      (ofString source).offset (l.startByte + 1 : Nat) = .ok (pair.start + 1) ∧
      (ofString source).offset (l.endByte - 1 : Nat) = .ok (pair.stop - 1) := by
  obtain ⟨hlt, hclosing⟩ := closing
  obtain ⟨a, ha, ha'⟩ := offset_succ_of_ascii opening (by decide)
  obtain ⟨b, hb, hb'⟩ := offset_succ_of_ascii hclosing (by decide)
  rw [Nat.sub_add_cancel (by omega)] at hb'
  refine ⟨⟨a, b + 1⟩, ⟨ha, hb'⟩, ha', ?_⟩
  rw [hb]
  exact congrArg Except.ok (Int.add_sub_cancel b 1).symm

end SourceText

/-- The bytes of a node. -/
def bytesOf (p : Tree) : Span := ⟨p.label.startByte, p.label.endByte⟩

/-! ## Well-placed trees -/

/-- The tree is a pair of parentheses with what they enclose. -/
def Tree.IsParenthesized (t : Tree) : Prop := t.kind = "parenthesized_expression"

/-- The second range begins where the first has ended, or the other way around. -/
def Label.Apart (l m : Label) : Prop := l.endByte ≤ m.startByte ∨ m.endByte ≤ l.startByte

/-- The second range lies in the first. -/
def Label.Encloses (l m : Label) : Prop := l.startByte ≤ m.startByte ∧ m.endByte ≤ l.endByte

/-- A node begins before it ends, and its children stand in it. -/
@[mk_iff]
structure Tree.Nested (t : Tree) : Prop where
  ordered : t.label.startByte ≤ t.label.endByte
  inside : ∀ c ∈ t.children, t.label.Encloses c.label

/-- What a parser vouches for about the place of a node: it begins before it ends, its children stand in
it, in their order, and parentheses are the first and the last byte of a parenthesized expression. -/
@[mk_iff]
structure WellPlaced (source : String) (t : Tree) : Prop where
  ordered : t.label.startByte ≤ t.label.endByte
  inside : ∀ c ∈ t.children, t.label.Encloses c.label
  siblings : t.children.Pairwise fun c d => c.label.endByte ≤ d.label.startByte
  opening : t.IsParenthesized → (encode source.toList)[t.label.startByte]? = some 0x28
  closing : t.IsParenthesized →
    t.label.startByte + 1 < t.label.endByte ∧
      (encode source.toList)[t.label.endByte - 1]? = some 0x29
  between : t.IsParenthesized →
    ∀ c ∈ t.children, t.label.startByte < c.label.startByte ∧ c.label.endByte < t.label.endByte

instance (l m : Label) : Decidable (l.Encloses m) := inferInstanceAs (Decidable (_ ∧ _))

instance (t : Tree) : Decidable t.Nested := decidable_of_iff _ (Tree.nested_iff t).symm

instance (t : Tree) : Decidable t.IsParenthesized := inferInstanceAs (Decidable (_ = _))

instance (source : String) (t : Tree) : Decidable (WellPlaced source t) :=
  decidable_of_iff _ (wellPlaced_iff source t).symm

/-- All nodes of a tree are well placed. -/
def LaidOut (source : String) (root : Tree) : Prop := ∀ t, root.Contains t → WellPlaced source t

instance (source : String) (root : Tree) : Decidable (LaidOut source root) :=
  inferInstanceAs (Decidable (∀ t, root.Contains t → WellPlaced source t))

/-- The ranges of a tree are nested like its nodes. -/
def Tree.Nests (root : Tree) : Prop := ∀ t, root.Contains t → t.Nested

namespace Tree.Nests

variable {t c : Tree}

theorem of_contains (nests : t.Nests) (h : t.Contains c) : c.Nests :=
  fun u hu => nests u (h.trans hu)

theorem encloses (nests : t.Nests) (h : t.Contains c) : t.label.Encloses c.label := by
  induction h with
  | refl => exact ⟨Nat.le_refl _, Nat.le_refl _⟩
  | tail hu hc ih =>
      obtain ⟨hstart, hstop⟩ := (nests _ hu).inside _ hc
      exact ⟨Nat.le_trans ih.1 hstart, Nat.le_trans hstop ih.2⟩

/-- The node of a tree stands in the range of the tree. It may be smaller, where the tree is an
expression in parentheses. -/
theorem exists_label_of_recurse (nests : t.Nests) {s : SourceText} {n : Node}
    (h : s.recurse t = .ok n) :
    ∃ l, t.label.Encloses l ∧ l.startByte ≤ l.endByte ∧ s.site l = .ok n.site := by
  obtain ⟨u, values, wraps, -, built⟩ := SourceText.exists_origin h
  have hcontains := Tree.contains_of_wraps wraps
  exact ⟨u.label, nests.encloses hcontains, (nests u hcontains).ordered, built.site_eq⟩

end Tree.Nests

theorem Label.Apart.symm {l m : Label} (h : l.Apart m) : m.Apart l := Or.symm h

namespace LaidOut

variable {source : String} {root t c x y : Tree}

theorem self (laid : LaidOut source t) : WellPlaced source t := laid t .refl

theorem of_contains (laid : LaidOut source t) (h : t.Contains c) : LaidOut source c :=
  fun u hu => laid u (h.trans hu)

theorem nests (laid : LaidOut source t) : t.Nests :=
  fun u hu => ⟨(laid u hu).ordered, (laid u hu).inside⟩

theorem encloses (laid : LaidOut source t) (h : t.Contains c) : t.label.Encloses c.label :=
  laid.nests.encloses h

/-- What parentheses enclose stands strictly between them. -/
theorem between (laid : LaidOut source t) (ht : t.IsParenthesized) (h : t.Below c) :
    t.label.startByte < c.label.startByte ∧ c.label.endByte < t.label.endByte := by
  obtain ⟨d, hd, hdc⟩ := Relation.TransGen.head'_iff.mp h
  have hbetween := laid.self.between ht d hd
  have hencloses := (laid.of_contains (.single hd)).encloses hdc
  exact ⟨Nat.lt_of_lt_of_le hbetween.1 hencloses.1, Nat.lt_of_le_of_lt hencloses.2 hbetween.2⟩

theorem siblings_apart (laid : LaidOut source t) (hx : x ∈ t.children) (hy : y ∈ t.children)
    (hne : x ≠ y) : x.label.Apart y.label := by
  have : Std.Symm fun c d : Tree => c.label.Apart d.label := ⟨fun _ _ h => h.symm⟩
  have hpairwise : t.children.Pairwise fun c d => c.label.Apart d.label :=
    laid.self.siblings.imp Or.inl
  exact hpairwise.forall hx hy hne

/-- Two nodes of a tree are nested, or they stand apart. The induction is on the path to the one; where
the path to the other leaves it, the two stand in different children. -/
theorem nested_or_apart (laid : LaidOut source root) (hx : root.Contains x) (hy : root.Contains y) :
    x.Contains y ∨ y.Contains x ∨ x.label.Apart y.label := by
  induction hx using Relation.ReflTransGen.head_induction_on with
  | refl => exact .inl hy
  | @head root c hc hcx ih =>
      rcases Tree.contains_cases hy with rfl | ⟨d, hd, hdy⟩
      · exact .inr (.inl (.head hc hcx))
      by_cases hcd : c = d
      · subst hcd
        exact ih (laid.of_contains (.single hc)) hdy
      · have hapart := laid.siblings_apart hc hd hcd
        obtain ⟨hxstart, hxstop⟩ := (laid.of_contains (.single hc)).encloses hcx
        obtain ⟨hystart, hystop⟩ := (laid.of_contains (.single hd)).encloses hdy
        unfold Label.Apart at hapart ⊢
        omega

end LaidOut

end ChainLint.Concrete
