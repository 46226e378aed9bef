import Mathlib.Data.List.Basic
import ChainLint.Dispatch

/-!
# Stable sorting

A stable sort keeps the order of elements that the order does not tell apart. So a sorted list is known
as soon as its classes of tied elements are known, each in its own order (`eq_of_sorted`), and two lists
that agree on every class sort to the same list (`mergeSort_eq_of_filter_tied`): what stands between the
members of a class does not matter.

The order of reports, by position and rule, is such an order, and two diagnostics are tied when both
agree (`tied_before_iff`).
-/

namespace ChainLint

/-! ## Classes of tied elements -/

section

variable {α : Type} {le : α → α → Bool}

/-- The order does not tell the two elements apart. -/
def tied (le : α → α → Bool) (a b : α) : Bool := le a b && le b a

theorem tied_iff {a b : α} : tied le a b = true ↔ le a b = true ∧ le b a = true := by
  rw [tied, Bool.and_eq_true]

/-- A sorted list is determined by its classes of tied elements. The heads of two lists with the same
classes stand before each other, so they are tied, and hence are the first of one class. -/
theorem eq_of_sorted (total : ∀ a b, le a b || le b a) :
    ∀ {l₁ l₂ : List α}, l₁.Pairwise (le · ·) → l₂.Pairwise (le · ·) →
      (∀ a, l₁.filter (tied le a) = l₂.filter (tied le a)) → l₁ = l₂
  | [], [], _, _, _ => rfl
  | [], b :: l₂, _, _, h => by
      have hb := h b
      have hself : tied le b b = true := by simpa [tied] using total b b
      simp [hself] at hb
  | a :: l₁, [], _, _, h => by
      have ha := h a
      have hself : tied le a a = true := by simpa [tied] using total a a
      simp [hself] at ha
  | a :: l₁, b :: l₂, h₁, h₂, h => by
      have hrefl : ∀ x, le x x = true := fun x => by simpa using total x x
      have hself : ∀ x, tied le x x = true := fun x => by simp [tied, hrefl]
      have hab : le a b = true := by
        have hb : b ∈ (a :: l₁).filter (tied le b) := by simp [h b, hself b]
        rcases List.mem_cons.mp (List.mem_of_mem_filter hb) with rfl | hb
        · exact hrefl b
        · exact List.rel_of_pairwise_cons h₁ hb
      have hba : le b a = true := by
        have ha : a ∈ (b :: l₂).filter (tied le a) := by simp [← h a, hself a]
        rcases List.mem_cons.mp (List.mem_of_mem_filter ha) with rfl | ha
        · exact hrefl a
        · exact List.rel_of_pairwise_cons h₂ ha
      have hhead : a = b := by
        have ha := h a
        rw [List.filter_cons_of_pos (hself a),
          List.filter_cons_of_pos (tied_iff.mpr ⟨hab, hba⟩)] at ha
        exact (List.cons.inj ha).1
      subst hhead
      have htail : ∀ x, l₁.filter (tied le x) = l₂.filter (tied le x) := by
        intro x
        have hx := h x
        rw [List.filter_cons, List.filter_cons] at hx
        split at hx
        · exact (List.cons.inj hx).2
        · exact hx
      rw [eq_of_sorted total h₁.of_cons h₂.of_cons htail]

variable (trans : ∀ a b c, le a b → le b c → le a c) (total : ∀ a b, le a b || le b a)

include trans total

/-- Sorting leaves every class of tied elements as it is. -/
theorem filter_tied_mergeSort (l : List α) (a : α) :
    (l.mergeSort le).filter (tied le a) = l.filter (tied le a) := by
  have hclass : (l.filter (tied le a)).Pairwise (le · ·) := by
    refine List.pairwise_of_forall_mem_list fun x hx y hy => ?_
    have hx := tied_iff.mp (List.of_mem_filter hx)
    have hy := tied_iff.mp (List.of_mem_filter hy)
    exact trans _ _ _ hx.2 hy.1
  have hsub : (l.filter (tied le a)).Sublist ((l.mergeSort le).filter (tied le a)) := by
    have := (List.sublist_mergeSort trans total hclass List.filter_sublist).filter (tied le a)
    simpa only [List.filter_filter, Bool.and_self] using this
  exact (hsub.eq_of_length (((List.mergeSort_perm l le).filter _).length_eq.symm)).symm

/-- What holds of any two elements in their order still holds of those that are tied. -/
theorem pairwise_mergeSort_of_tied {R : α → α → Prop} {l : List α} (h : l.Pairwise R) :
    (l.mergeSort le).Pairwise fun a b => tied le a b = true → R a b := by
  refine List.pairwise_iff_forall_sublist.mpr fun {a b} hab htied => ?_
  have hself : tied le a a = true := by simpa [tied] using total a a
  have hclass : [a, b].filter (tied le a) = [a, b] := by
    rw [List.filter_cons_of_pos hself, List.filter_cons_of_pos htied, List.filter_nil]
  have hsub := hab.filter (tied le a)
  rw [hclass, filter_tied_mergeSort trans total] at hsub
  exact List.pairwise_iff_forall_sublist.mp h (hsub.trans List.filter_sublist)

/-- Lists with the same classes of tied elements sort to the same list. -/
theorem mergeSort_eq_of_filter_tied {l₁ l₂ : List α}
    (h : ∀ a, l₁.filter (tied le a) = l₂.filter (tied le a)) :
    l₁.mergeSort le = l₂.mergeSort le := by
  refine eq_of_sorted total (List.pairwise_mergeSort trans total l₁)
    (List.pairwise_mergeSort trans total l₂) fun a => ?_
  rw [filter_tied_mergeSort trans total, filter_tied_mergeSort trans total, h a]

/-- Choosing elements by a test and sorting can be done in either order. -/
theorem filter_mergeSort (p : α → Bool) (l : List α) :
    (l.mergeSort le).filter p = (l.filter p).mergeSort le := by
  refine eq_of_sorted total ((List.pairwise_mergeSort trans total l).sublist List.filter_sublist)
    (List.pairwise_mergeSort trans total _) fun a => ?_
  rw [filter_tied_mergeSort trans total, List.filter_comm, filter_tied_mergeSort trans total,
    List.filter_comm]

end

/-! ## The order of reports -/

namespace Text

theorem before_iff {a b : String} : before a b = true ↔ a ≤ b := by
  rw [before, Bool.not_eq_true', decide_eq_false_iff_not, String.not_lt]

end Text

namespace Diagnostic

theorem before_iff {a b : Diagnostic} :
    before a b = true ↔
      a.node.span.start < b.node.span.start ∨
        (a.node.span.start = b.node.span.start ∧ a.ruleId ≤ b.ruleId) := by
  unfold before
  split
  · rename_i h
    simp [h, Text.before_iff]
  · rename_i h
    simp [h]

theorem before_trans (a b c : Diagnostic) (hab : before a b) (hbc : before b c) : before a c := by
  rw [before_iff] at *
  rcases hab with hab | ⟨hab, hr⟩ <;> rcases hbc with hbc | ⟨hbc, hr'⟩
  · exact Or.inl (by omega)
  · exact Or.inl (by omega)
  · exact Or.inl (by omega)
  · exact Or.inr ⟨hab.trans hbc, String.le_trans hr hr'⟩

theorem before_total (a b : Diagnostic) : before a b || before b a := by
  rw [Bool.or_eq_true, before_iff, before_iff]
  rcases Int.lt_trichotomy a.node.span.start b.node.span.start with h | h | h
  · exact Or.inl (Or.inl h)
  · rcases String.le_total a.ruleId b.ruleId with hr | hr
    · exact Or.inl (Or.inr ⟨h, hr⟩)
    · exact Or.inr (Or.inr ⟨h.symm, hr⟩)
  · exact Or.inr (Or.inl h)

/-- Diagnostics are tied when they agree in position and rule. -/
theorem tied_before_iff {a b : Diagnostic} :
    tied before a b = true ↔ a.node.span.start = b.node.span.start ∧ a.ruleId = b.ruleId := by
  rw [tied_iff, before_iff, before_iff]
  constructor
  · rintro ⟨h | ⟨h, hr⟩, h' | ⟨h', hr'⟩⟩
    · omega
    · omega
    · omega
    · exact ⟨h, String.le_antisymm hr hr'⟩
  · rintro ⟨h, hr⟩
    exact ⟨Or.inr ⟨h, hr ▸ String.le_refl _⟩, Or.inr ⟨h.symm, hr ▸ String.le_refl _⟩⟩

end Diagnostic

end ChainLint
