import ChainLint.Proofs.Chain.Grammar

/-!
# What a call of a named method returns

Most methods of collections are in none of the tables, and then a call of the method is a collection
whatever its arguments are (`not_leaves_of_keeps`), provided that there is no plugin of the same name:
plugins are asked for every method. Of the methods in the tables, those that read and write a value are
told apart by their arguments (`leaves_valueAccessor_iff`).

To the classifier a call is what its callee is, unless the receiver is the constructor or the method
leaves the collection (`classify_call_iff`). So a rule may ask about the call or about the callee.
-/

namespace ChainLint

namespace Methods

/-- The method is known, and in none of the tables of methods that may leave the collection. -/
def Keeps (method : String) : Prop :=
  method ∈ known ∧ method ∉ neverCollection ∧ method ∉ accessors ∧ method ∉ valueAccessors ∧
    method ∉ sizing ∧ method ≠ queue

instance : DecidablePred Keeps := fun method => by
  unfold Keeps
  infer_instance

/-- The tables have no method in common with that of value accessors. -/
theorem only_valueAccessor : ∀ method ∈ valueAccessors,
    method ∈ known ∧ method ∉ neverCollection ∧ method ∉ accessors ∧ method ∉ sizing ∧
      method ≠ queue := by
  decide

end Methods

namespace Vocabulary

variable {v : Vocabulary} {method : String} {arguments : List Node}

theorem not_leaves_of_keeps (keeps : Methods.Keeps method) (plain : v.plugin? method = none) :
    ¬ v.Leaves method arguments := by
  obtain ⟨known, never, accessor, valueAccessor, sizing, queue⟩ := keeps
  intro h
  cases h with
  | never h => rcases h with h | h <;> simp_all
  | accessor h => rcases h with h | h <;> simp_all
  | valueAccessor h => rcases h with h | h <;> simp_all
  | valueAccessorKey h => rcases h with h | h <;> simp_all
  | sizing h => exact sizing h
  | sizingFlag h => exact sizing h
  | queue h => exact queue h
  | queueName h => exact queue h
  | unknown h => exact h known

/-- A value is read if there is no argument, or a single one that is no object literal. -/
theorem leaves_valueAccessor_iff (hmethod : method ∈ Methods.valueAccessors)
    (plain : v.plugin? method = none) :
    v.Leaves method arguments ↔
      arguments = [] ∨ ∃ a, arguments = [a] ∧ a.kind ≠ "ObjectExpression" := by
  obtain ⟨known, never, accessor, sizing, queue⟩ := Methods.only_valueAccessor method hmethod
  constructor
  · intro h
    cases h with
    | never h => rcases h with h | h <;> simp_all
    | accessor => exact Or.inl rfl
    | valueAccessor => exact Or.inl rfl
    | valueAccessorKey _ ha => exact Or.inr ⟨_, rfl, ha⟩
    | sizing h => exact absurd h sizing
    | sizingFlag h => exact absurd h sizing
    | queue h => exact absurd h queue
    | queueName h => exact absurd h queue
    | unknown h => exact absurd known h
  · rintro (rfl | ⟨a, rfl, ha⟩)
    · exact .valueAccessor (Or.inl hmethod)
    · exact .valueAccessorKey (Or.inl hmethod) ha

theorem returnsOther_iff_of_named {callee : Node} {name : String}
    (hname : callee.propertyName? = some name) :
    v.ReturnsOther (some callee) arguments ↔
      callee.object?.any v.isConstructor = true ∨ v.Leaves name arguments := by
  obtain ⟨site, object, key, rfl⟩ := Node.exists_of_propertyName? hname
  rw [← returnsOther_iff, ← leavesCollection_iff]
  simp only [returnsOther, methodName?, Bool.or_eq_true, Node.object?, Option.any_some]

theorem classify_call_iff (p : Parents) {n callee : Node} {name : String}
    (hcallee : n.memberCallee? = some callee) (hname : callee.propertyName? = some name) :
    v.classify p .collection (some n) = .ok true ↔
      callee.object?.any v.isConstructor = false ∧ ¬ v.Leaves name n.arguments ∧
        v.classify p .collection (some callee) = .ok true := by
  obtain ⟨site, arguments, rfl⟩ := Node.exists_of_memberCallee? hcallee
  have hother : v.ReturnsOther (some callee) arguments ↔ _ := returnsOther_iff_of_named hname
  rw [← returnsOther_iff] at hother
  simp only [classify, peelOption, peel, Node.arguments]
  by_cases h : v.returnsOther (some callee) arguments = true
  · rw [if_pos h]
    rcases hother.mp h with hobject | hleaves
    · simp [hobject]
    · simp [hleaves]
  · rw [if_neg h]
    rw [hother, not_or, Bool.not_eq_true] at h
    simp [h]

end Vocabulary

end ChainLint
