import ChainLint.Log
import Mathlib.Data.List.Forall2

/-!
# Computations along a list that may fail

A computation is run for the elements of a list in order, and the first failure is the failure of the
whole. It succeeds if and only if it does so for every element. Where there is only one way to fail, it
is enough to say when this happens (`FailsIff`). Notes that are taken on the way do not change the result
(`Attempt.result_mapM`).
-/

namespace ChainLint

section

variable {ε α β : Type} {f : α → Except ε β}

@[simp] theorem ok_bind (a : α) : (Except.ok a >>= f) = f a := rfl

@[simp] theorem error_bind (e : ε) : (Except.error e >>= f) = .error e := rfl

theorem exists_of_bind_eq_ok {x : Except ε α} {b : β} (h : (x >>= f) = .ok b) :
    ∃ a, x = .ok a ∧ f a = .ok b := by
  cases x with
  | error e => cases h
  | ok a => exact ⟨a, rfl, h⟩

/-- The error of a computation that fails. Errors can be compared where results cannot. -/
def error? : Except ε α → Option ε
  | .ok _ => none
  | .error e => some e

theorem error?_eq_some_iff {x : Except ε α} {e : ε} : error? x = some e ↔ x = .error e := by
  cases x <;> simp [error?]

/-- The values of a successful run are those of the elements, one for one. -/
theorem mapM_eq_ok_iff {xs : List α} {ys : List β} :
    xs.mapM f = .ok ys ↔ List.Forall₂ (fun x y => f x = .ok y) xs ys := by
  induction xs generalizing ys with
  | nil =>
      rw [List.mapM_nil, List.forall₂_nil_left_iff]
      constructor
      · rintro ⟨⟩
        rfl
      · rintro rfl
        rfl
  | cons x xs ih =>
      rw [List.mapM_cons, List.forall₂_cons_left_iff]
      constructor
      · intro h
        obtain ⟨y, hx, h⟩ := exists_of_bind_eq_ok h
        obtain ⟨zs, hxs, h⟩ := exists_of_bind_eq_ok h
        obtain rfl := Except.ok.inj h
        exact ⟨y, zs, hx, ih.mp hxs, rfl⟩
      · rintro ⟨y, zs, hx, hxs, rfl⟩
        rw [hx, ih.mpr hxs]
        rfl

theorem exists_of_mapM_eq_ok {xs : List α} {ys : List β} (h : xs.mapM f = .ok ys) {x : α}
    (hx : x ∈ xs) : ∃ y ∈ ys, f x = .ok y := by
  induction mapM_eq_ok_iff.mp h with
  | nil => cases hx
  | cons hy hrest ih =>
      rcases List.mem_cons.mp hx with rfl | hx
      · exact ⟨_, List.mem_cons_self .., hy⟩
      · obtain ⟨y, hmem, hy⟩ := ih (mapM_eq_ok_iff.mpr hrest) hx
        exact ⟨y, List.mem_cons_of_mem _ hmem, hy⟩

theorem exists_of_mem_mapM {xs : List α} {ys : List β} (h : xs.mapM f = .ok ys) {y : β}
    (hy : y ∈ ys) : ∃ x ∈ xs, f x = .ok y := by
  induction mapM_eq_ok_iff.mp h with
  | nil => cases hy
  | cons hx hrest ih =>
      rcases List.mem_cons.mp hy with rfl | hy
      · exact ⟨_, List.mem_cons_self .., hx⟩
      · obtain ⟨x, hmem, hx⟩ := ih (mapM_eq_ok_iff.mpr hrest) hy
        exact ⟨x, List.mem_cons_of_mem _ hmem, hx⟩

theorem mapM_eq_ok_map {xs : List α} {g : α → β} (h : ∀ x ∈ xs, f x = .ok (g x)) :
    xs.mapM f = .ok (xs.map g) := by
  rw [mapM_eq_ok_iff, List.forall₂_map_right_iff, List.forall₂_same]
  exact h

theorem exists_mapM_eq_ok {xs : List α} (h : ∀ x ∈ xs, ∃ y, f x = .ok y) :
    ∃ ys, xs.mapM f = .ok ys := by
  induction xs with
  | nil => exact ⟨[], rfl⟩
  | cons x xs ih =>
      obtain ⟨y, hy⟩ := h x (List.mem_cons_self ..)
      obtain ⟨ys, hys⟩ := ih fun z hz => h z (List.mem_cons_of_mem _ hz)
      refine ⟨y :: ys, ?_⟩
      rw [List.mapM_cons, hy, hys]
      rfl

theorem mapM_congr {g : α → Except ε β} {xs : List α} (h : ∀ x ∈ xs, f x = g x) :
    xs.mapM f = xs.mapM g := by
  induction xs with
  | nil => rfl
  | cons x xs ih =>
      rw [List.mapM_cons, List.mapM_cons, h x (List.mem_cons_self ..),
        ih fun y hy => h y (List.mem_cons_of_mem _ hy)]

theorem mapM_map_result {γ : Type} (g : β → γ) (xs : List α) :
    (xs.mapM fun x => (f x).map g) = (xs.mapM f).map (List.map g) := by
  induction xs with
  | nil => rfl
  | cons x xs ih =>
      rw [List.mapM_cons, List.mapM_cons, ih]
      cases f x with
      | error e => rfl
      | ok y => cases xs.mapM f <;> rfl

/-- Lists of results in a row: it does not matter how the elements are grouped. -/
theorem flatten_mapM_flatMap {γ : Type} {f : β → Except ε (List γ)} {g : α → List β} (xs : List α) :
    ((xs.flatMap g).mapM f).map List.flatten =
      (xs.mapM fun x => ((g x).mapM f).map List.flatten).map List.flatten := by
  induction xs with
  | nil => rfl
  | cons x xs ih =>
      rw [List.flatMap_cons, List.mapM_append, List.mapM_cons]
      cases (g x).mapM f with
      | error e => rfl
      | ok ys =>
          -- Either way the results of `x` are put in front of the others.
          have hleft : ∀ o : Except ε (List (List γ)),
              (o >>= fun zs => .ok (ys ++ zs)).map List.flatten =
                (o.map List.flatten).map (ys.flatten ++ ·) := by
            intro o
            cases o with
            | error e => rfl
            | ok zs => exact congrArg Except.ok List.flatten_append
          have hright : ∀ o : Except ε (List (List γ)),
              (o >>= fun zs => .ok (ys.flatten :: zs)).map List.flatten =
                (o.map List.flatten).map (ys.flatten ++ ·) := by
            intro o
            cases o <;> rfl
          exact (hleft _).trans ((congrArg (Except.map (ys.flatten ++ ·)) ih).trans (hright _).symm)

/-- Where all failures are the same, one of them makes the whole fail with it. -/
theorem mapM_eq_error {xs : List α} {e : ε} (only : ∀ x ∈ xs, ∀ e', f x = .error e' → e' = e) {x : α}
    (hx : x ∈ xs) (h : f x = .error e) : xs.mapM f = .error e := by
  induction xs with
  | nil => cases hx
  | cons z xs ih =>
      rw [List.mapM_cons]
      match hz : f z with
      | .error e' =>
          rw [only z (List.mem_cons_self ..) e' hz]
          rfl
      | .ok y =>
          rcases List.mem_cons.mp hx with rfl | hx
          · rw [h] at hz
            cases hz
          · rw [ih (fun w hw => only w (List.mem_cons_of_mem _ hw)) hx]
            rfl

/-! ## One way to fail -/

/-- The computation fails with one error if a condition holds, and succeeds if it does not. -/
def FailsIff (e : ε) (p : Prop) (x : Except ε α) : Prop :=
  p ∧ x = .error e ∨ ¬ p ∧ ∃ a, x = .ok a

variable {e : ε} {p q : Prop} {x : Except ε α}

theorem failsIff_of_ok (hp : ¬ p) {a : α} (h : x = .ok a) : FailsIff e p x := .inr ⟨hp, a, h⟩

theorem FailsIff.congr (h : FailsIff e p x) (hpq : p ↔ q) : FailsIff e q x := propext hpq ▸ h

theorem FailsIff.bind {g : α → Except ε β} (h : FailsIff e p x)
    (hg : ∀ a, x = .ok a → FailsIff e q (g a)) : FailsIff e (p ∨ q) (x >>= g) := by
  rcases h with ⟨hp, rfl⟩ | ⟨hp, a, rfl⟩
  · exact .inl ⟨.inl hp, rfl⟩
  · exact (hg a rfl).congr (or_iff_right hp).symm

theorem FailsIff.map (h : FailsIff e p x) (g : α → β) : FailsIff e p (x.map g) := by
  rcases h with ⟨hp, rfl⟩ | ⟨hp, a, rfl⟩
  · exact .inl ⟨hp, rfl⟩
  · exact .inr ⟨hp, g a, rfl⟩

theorem FailsIff.mapM {bad : α → Prop} {xs : List α} (h : ∀ x ∈ xs, FailsIff e (bad x) (f x)) :
    FailsIff e (∃ x ∈ xs, bad x) (xs.mapM f) := by
  by_cases hbad : ∃ x ∈ xs, bad x
  · obtain ⟨x, hx, hbadx⟩ := hbad
    have herror : f x = .error e := by
      rcases h x hx with ⟨-, herror⟩ | ⟨hgood, -⟩
      · exact herror
      · exact absurd hbadx hgood
    refine .inl ⟨⟨x, hx, hbadx⟩, mapM_eq_error (fun y hy e' he' => ?_) hx herror⟩
    rcases h y hy with ⟨-, h⟩ | ⟨-, a, h⟩
    · exact Except.error.inj (he'.symm.trans h)
    · rw [h] at he'
      cases he'
  · refine .inr ⟨hbad, exists_mapM_eq_ok fun x hx => ?_⟩
    rcases h x hx with ⟨hbadx, -⟩ | ⟨-, hok⟩
    · exact absurd ⟨x, hx, hbadx⟩ hbad
    · exact hok

end

/-! ## Attempts -/

namespace Attempt

variable {ε α β : Type}

@[simp] theorem result_mapM (f : α → Attempt ε β) (xs : List α) :
    (xs.mapM f).result = xs.mapM fun x => (f x).result := by
  induction xs with
  | nil => rfl
  | cons x xs ih => simp only [List.mapM_cons, result_bind, ih, result_pure]; rfl

/-- What stands behind an attempt matters for its own result only. -/
theorem bind_congr_of_result {x : Attempt ε α} {a : α} (h : x.result = .ok a) {f g : α → Attempt ε β}
    (hfg : f a = g a) : x >>= f = x >>= g := by
  obtain ⟨value, log⟩ := x
  obtain rfl : value = .ok a := h
  show Logged.mk (f a).value (log ++ (f a).log) = Logged.mk (g a).value (log ++ (g a).log)
  rw [hfg]

end Attempt

end ChainLint
