import ChainLint.Pattern
import ChainLint.Proofs.Text.Occurrences

/-!
# Running simple patterns

What the matcher does with the pieces that simple patterns are made of: a row of characters is compared
with the text at the place (`run_spell`), and a greedy repetition of any character gives characters back
until the rest of the pattern matches (`giveBack_of_last`, `giveBack_of_none`), so that the rest is
matched as late as it can be. A failure hands back registers; what counts of them are the marks, and those
that were known before a choice are known after it.

`Pattern.firstMatch?` is the leftmost match in a text.
-/

namespace ChainLint.Pattern

open ChainLint.Text

/-! ## Characters -/

theorem getElem?_ofString (text : String) (i : Nat) :
    (Subject.ofString text).chars[i]? = text.toList[i]?.map Char.toNat := by
  simp [Subject.ofString]

theorem size_ofString (text : String) : (Subject.ofString text).chars.size = text.toList.length := by
  simp [Subject.ofString]

/-- The test for one character. -/
def stepOf (c : Char) : Step := .literal .exact false c.toNat

theorem passes_stepOf {c d : Char} : (stepOf c).passes d.toNat = true ↔ d = c := by
  simp only [stepOf, Step.passes, Fold.apply, bne_iff_ne, ne_eq, Bool.not_eq_false, beq_iff_eq]
  exact ⟨fun h => Char.ext (UInt32.toNat_inj.mp h), fun h => congrArg _ h⟩

theorem passesAt_stepOf {text : String} {c : Char} {i : Nat} :
    (Subject.ofString text).passesAt (stepOf c) i = true ↔ text.toList[i]? = some c := by
  rw [Subject.passesAt, getElem?_ofString]
  cases h : text.toList[i]? with
  | none => simp
  | some d => simp [passes_stepOf]

/-- The program that matches a row of characters, and then the rest. -/
def spell (mark : List Char) (rest : Program) : Program :=
  mark.foldr (fun c program => .seq (.one (stepOf c)) program) rest

theorem run_spell (text : String) (mark : List Char) (rest : Program) (r : Registers) (p : Nat)
    (k : Rest) : (spell mark rest).run (.ofString text) false r p k =
      if OccursAt mark text.toList p then rest.run (.ofString text) false r (p + mark.length) k
      else .failed r := by
  induction mark generalizing p with
  | nil => rw [if_pos (occursAt_nil ..)]; rfl
  | cons c cs ih =>
      show (if (Subject.ofString text).passesAt (stepOf c) p then
        (spell cs rest).run (.ofString text) false r (p + 1) k else .failed r) = _
      rw [ih, List.length_cons, Nat.add_right_comm, ← Nat.add_assoc]
      simp only [passesAt_stepOf, occursAt_cons_iff]
      by_cases hc : text.toList[p]? = some c
      · simp [hc]
      · simp [hc]

/-! ## Giving back -/

/-- From the index the rest fails, and leaves the marks that were known. -/
def FailsAt (k : Rest) (marks : List (Option Nat)) (q : Nat) : Prop :=
  ∀ r : Registers, r.marks = marks → ∃ r', k r q = .failed r' ∧ r'.marks.take marks.length = marks

/-- From the index the rest matches up to another one, and its registers are as they should be. -/
def MatchesAt (k : Rest) (marks : List (Option Nat)) (q stop : Nat) (Q : Registers → Prop) : Prop :=
  ∀ r : Registers, r.marks = marks → ∃ r', k r q = .matched stop r' ∧ Q r'

section

variable {s : Subject} {k : Rest} {marks : List (Option Nat)} {p q stop m n : Nat} {Q : Registers → Prop}
  {r : Registers}

/-- One try of the rest, which fails. -/
theorem again_of_fails (h : FailsAt k marks q) (hr : r.marks = marks) :
    ∃ r', giveBack.again false k r q = .failed r' ∧ r'.marks = marks := by
  obtain ⟨r', hk, hmarks⟩ := h (r.move q) hr
  refine ⟨r'.restore false r.marks, ?_, ?_⟩
  · rw [giveBack.again, hk]
    rfl
  · rw [hr]
    exact hmarks

theorem again_of_matches (h : MatchesAt k marks q stop Q) (hr : r.marks = marks) :
    ∃ r', giveBack.again false k r q = .matched stop r' ∧ Q r' := by
  obtain ⟨r', hk, hQ⟩ := h (r.move q) hr
  exact ⟨r', by rw [giveBack.again, hk]; rfl, hQ⟩

/-- If the rest fails everywhere, the repetition does. -/
theorem giveBack_of_none (fails : ∀ j ≤ n, FailsAt k marks (p + j)) (hr : r.marks = marks) :
    ∃ r', giveBack s false none p 0 k r n = .failed r' ∧ r'.marks = marks := by
  induction n generalizing r with
  | zero => exact again_of_fails (fails 0 (Nat.le_refl 0)) hr
  | succ n ih =>
      obtain ⟨r', hagain, hmarks⟩ := again_of_fails (fails (n + 1) (Nat.le_refl _)) hr
      obtain ⟨r'', hrest, hmarks'⟩ := ih (fun j hj => fails j (Nat.le_succ_of_le hj)) hmarks
      refine ⟨r'', ?_, hmarks'⟩
      rw [giveBack, if_neg (Nat.not_lt_zero _)]
      show (giveBack.again false k r (p + (n + 1))).orElse _ = _
      rw [hagain]
      exact hrest

/-- The repetition takes as much as it can. -/
theorem giveBack_of_last (hm : m ≤ n) (fails : ∀ j ≤ n, m < j → FailsAt k marks (p + j))
    (last : MatchesAt k marks (p + m) stop Q) (hr : r.marks = marks) :
    ∃ r', giveBack s false none p 0 k r n = .matched stop r' ∧ Q r' := by
  induction n generalizing r with
  | zero =>
      obtain rfl := Nat.le_zero.mp hm
      exact again_of_matches last hr
  | succ n ih =>
      rw [giveBack, if_neg (Nat.not_lt_zero _)]
      show ∃ r', (giveBack.again false k r (p + (n + 1))).orElse _ = _ ∧ Q r'
      rcases Nat.lt_or_eq_of_le hm with hlt | rfl
      · obtain ⟨r', hagain, hmarks⟩ := again_of_fails (fails (n + 1) (Nat.le_refl _) hlt) hr
        rw [hagain]
        exact ih (Nat.le_of_lt_succ hlt) (fun j hj => fails j (Nat.le_succ_of_le hj)) hmarks
      · obtain ⟨r', hagain, hQ⟩ := again_of_matches last hr
        rw [hagain]
        exact ⟨r', rfl, hQ⟩

end

/-! ## Any characters -/

/-- Any characters of the line, as many as possible. -/
def dots : Program := .many .greedy 0 none (.any false) none

section

variable {text : String}

theorem countFrom_any (oneLine : '\n' ∉ text.toList) {p n : Nat} (h : p + n ≤ text.toList.length) :
    (Subject.ofString text).countFrom (.any false) p n = n := by
  induction n generalizing p with
  | zero => rfl
  | succ n ih =>
      have hp : p < text.toList.length := by omega
      have hpasses : (Subject.ofString text).passesAt (.any false) p = true := by
        rw [Subject.passesAt, getElem?_ofString, List.getElem?_eq_getElem hp]
        have hne : text.toList[p] ≠ '\n' := fun heq => oneLine (heq ▸ List.getElem_mem hp)
        simpa [Step.passes] using fun heq => hne (Char.ext (UInt32.toNat_inj.mp heq))
      rw [Subject.countFrom, if_pos hpasses, ih (by omega)]

/-- In a text of one line the repetition may take all that is left. -/
theorem run_dots (oneLine : '\n' ∉ text.toList) {p : Nat} (hp : p ≤ text.toList.length) (r : Registers)
    (k : Rest) : dots.run (.ofString text) false r p k =
      giveBack (.ofString text) false none p 0 k (r.move p) (text.toList.length - p) := by
  have hleft : (Subject.ofString text).left p = text.toList.length - p := by
    rw [Subject.left, size_ofString]
  have hcount := countFrom_any oneLine (show p + (text.toList.length - p) ≤ text.toList.length by omega)
  show manyRounds (.ofString text) false .greedy 0 none (.any false) none r p k = _
  rw [manyRounds, if_neg (Nat.not_lt_zero _)]
  simp only [Option.getD_none, Nat.min_self, hleft, hcount, Nat.not_lt_zero, if_false]
  rfl

end

/-! ## The leftmost match -/

/-- The leftmost match of a pattern in a text: where it begins and ends, and what a group has captured. -/
def firstMatch? (p : Pattern) (group : Nat) (text : String) :
    Option (Nat × Nat × Option (Nat × Nat)) :=
  (p.entry.places (Subject.ofString text).chars).findSome? fun i =>
    match Run.once (p.program.run (.ofString text) false) ⟨i, []⟩ i with
    | .matched stop r => some (i, stop, r.captured? group)
    | .failed _ => none

/-- The first place that passes a test is found if it gives something, and nothing before it does. -/
theorem findSome?_filter_range {α : Type} {f : Nat → Bool} {g : Nat → Option α} {i n : Nat} {x : α}
    (hi : i < n) (hf : f i = true) (hg : g i = some x) (hnone : ∀ j < i, g j = none) :
    ((List.range n).filter f).findSome? g = some x := by
  obtain ⟨k, rfl⟩ : ∃ k, n = i + (k + 1) := ⟨n - i - 1, by omega⟩
  have hbefore : ((List.range i).filter f).findSome? g = none :=
    List.findSome?_eq_none_iff.mpr fun j hj => hnone j (List.mem_range.mp (List.mem_filter.mp hj).1)
  rw [List.range_add, List.filter_append, List.findSome?_append, hbefore, Option.none_or,
    List.range_succ_eq_map, List.map_cons, Nat.add_zero, List.filter_cons_of_pos hf,
    List.findSome?_cons, hg]

end ChainLint.Pattern
