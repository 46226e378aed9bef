import Mathlib.Data.List.Basic
import Mathlib.Data.Nat.Find

/-!
# Occurrences of a mark

Where a mark occurs in a text, with the first and the last of these places. Occurrences may overlap.
-/

namespace ChainLint.Text

/-- A mark occurs in a text at an index. -/
def OccursAt (mark text : List Char) (i : Nat) : Prop := mark <+: text.drop i

instance (mark text : List Char) (i : Nat) : Decidable (OccursAt mark text i) :=
  inferInstanceAs (Decidable (mark <+: text.drop i))

theorem occursAt_nil (text : List Char) (i : Nat) : OccursAt [] text i := List.nil_prefix

theorem occursAt_cons_iff {c : Char} {cs text : List Char} {i : Nat} :
    OccursAt (c :: cs) text i ↔ text[i]? = some c ∧ OccursAt cs text (i + 1) := by
  unfold OccursAt
  rw [← List.head?_drop, ← List.tail_drop]
  cases text.drop i with
  | nil => simp
  | cons d rest => rw [List.cons_prefix_cons, List.head?_cons, Option.some.injEq, eq_comm]; rfl

theorem OccursAt.add_length_le {mark text : List Char} {i : Nat} (h : OccursAt mark text i)
    (hne : mark ≠ []) : i + mark.length ≤ text.length := by
  have hle := h.length_le
  have hpos := List.length_pos_iff.mpr hne
  rw [List.length_drop] at hle
  omega

/-- The index of the first occurrence of a mark. -/
structure FirstAt (mark text : List Char) (i : Nat) : Prop where
  occurs : OccursAt mark text i
  first : ∀ j < i, ¬ OccursAt mark text j

/-- The index of the last occurrence of a mark. -/
structure LastAt (mark text : List Char) (i : Nat) : Prop where
  occurs : OccursAt mark text i
  last : ∀ j, i < j → ¬ OccursAt mark text j

section

variable {mark text : List Char} {i j : Nat}

theorem OccursAt.exists_first (h : OccursAt mark text i) : ∃ j ≤ i, FirstAt mark text j :=
  ⟨Nat.find ⟨i, h⟩, Nat.find_min' _ h, Nat.find_spec ⟨i, h⟩, fun _ => Nat.find_min ⟨i, h⟩⟩

theorem OccursAt.exists_last (hne : mark ≠ []) (h : OccursAt mark text i) :
    ∃ j, i ≤ j ∧ LastAt mark text j := by
  have hbound : i ≤ text.length := Nat.le_trans (Nat.le_add_right ..) (h.add_length_le hne)
  refine ⟨Nat.findGreatest (OccursAt mark text) text.length, Nat.le_findGreatest hbound h,
    Nat.findGreatest_spec hbound h, fun j hj hoccurs => ?_⟩
  have hj' : j ≤ text.length := Nat.le_trans (Nat.le_add_right ..) (hoccurs.add_length_le hne)
  exact Nat.findGreatest_is_greatest hj hj' hoccurs

/-- There is no need to look behind the end of the text. -/
theorem LastAt.of_bounded (hne : mark ≠ []) (occurs : OccursAt mark text i)
    (last : ∀ j < text.length, i < j → ¬ OccursAt mark text j) : LastAt mark text i := by
  refine ⟨occurs, fun j hj hoccurs => ?_⟩
  have hpos := List.length_pos_iff.mpr hne
  have hle := hoccurs.add_length_le hne
  exact last j (by omega) hj hoccurs

theorem LastAt.unique (h : LastAt mark text i) (h' : LastAt mark text j) : i = j := by
  by_contra hne
  rcases Nat.lt_or_gt_of_ne hne with hlt | hlt
  · exact h.last j hlt h'.occurs
  · exact h'.last i hlt h.occurs

theorem FirstAt.unique (h : FirstAt mark text i) (h' : FirstAt mark text j) : i = j := by
  by_contra hne
  rcases Nat.lt_or_gt_of_ne hne with hlt | hlt
  · exact h'.first i hlt h.occurs
  · exact h.first j hlt h'.occurs

theorem occursAt_drop {k : Nat} : OccursAt mark (text.drop k) i ↔ OccursAt mark text (k + i) := by
  rw [OccursAt, OccursAt, List.drop_drop]

theorem occursAt_zero_iff {c : Char} {rest : List Char} :
    mark.isPrefixOf (c :: rest) = true ↔ OccursAt mark (c :: rest) 0 := List.isPrefixOf_iff_prefix

end

end ChainLint.Text
