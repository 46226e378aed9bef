/-!
# Sums over lists

The sum of a measure over the elements of a list. What works on a stack ends because such a sum gets
smaller with every element that is taken from it.
-/

namespace ChainLint

variable {α β : Type} (measure : α → Nat)

/-- The sum of a measure over a list. -/
def sumOver : List α → Nat
  | [] => 0
  | x :: rest => measure x + sumOver rest

@[simp] theorem sumOver_nil : sumOver measure [] = 0 := rfl

@[simp] theorem sumOver_cons (x : α) (rest : List α) :
    sumOver measure (x :: rest) = measure x + sumOver measure rest := rfl

@[simp] theorem sumOver_append (xs ys : List α) :
    sumOver measure (xs ++ ys) = sumOver measure xs + sumOver measure ys := by
  induction xs with
  | nil => simp
  | cons x rest ih => simp only [List.cons_append, sumOver_cons, ih, Nat.add_assoc]

@[simp] theorem sumOver_map (f : β → α) (xs : List β) :
    sumOver measure (xs.map f) = sumOver (fun x => measure (f x)) xs := by
  induction xs with
  | nil => rfl
  | cons x rest ih => simp only [List.map_cons, sumOver_cons, ih]

@[simp] theorem sumOver_reverse (xs : List α) :
    sumOver measure xs.reverse = sumOver measure xs := by
  induction xs with
  | nil => rfl
  | cons x rest ih =>
    simp only [List.reverse_cons, sumOver_append, sumOver_cons, sumOver_nil, ih]
    omega

theorem le_sumOver_of_mem {x : α} {xs : List α} (h : x ∈ xs) : measure x ≤ sumOver measure xs := by
  induction xs with
  | nil => cases h
  | cons y rest ih =>
    rw [sumOver_cons]
    rcases List.mem_cons.mp h with rfl | h
    · omega
    · have := ih h; omega

theorem sumOver_filter_le (p : α → Bool) (xs : List α) :
    sumOver measure (xs.filter p) ≤ sumOver measure xs := by
  induction xs with
  | nil => exact Nat.le_refl 0
  | cons x rest ih =>
    rw [List.filter_cons]
    split <;> simp only [sumOver_cons] <;> omega

end ChainLint
