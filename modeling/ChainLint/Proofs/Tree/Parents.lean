import Std.Data.HashMap.Lemmas
import ChainLint.Proofs.Tree.Traversal
import ChainLint.Tree.Parents

/-!
# The table of parents is the parent relation

`Parents.fill` empties a stack of trees and enters every node it takes as the parent of its children. Two
facts about the loop are enough: an entry of the table comes from a node and one of its children
(`fill_sound`), and every child of a node has an entry (`fill_covers`). Which of several parents would
win is never asked, since in a tree of distinct nodes a child has one parent only.

`Node.Called` is the relation that the classifier asks for: to be the callee of a call.
-/

namespace ChainLint

namespace Node

/-- The node is the callee of a call of the tree. -/
def Called (root n : Node) : Prop :=
  ∃ site arguments, Node.call site (some n) arguments ∈ root.nodes

theorem not_called_self (root : Node) : ¬ root.Called root := by
  rintro ⟨site, arguments, hcall⟩
  exact root_notMem_children hcall (List.mem_cons_self ..)

/-- Whether a child is called is seen from its parent. -/
theorem called_child_iff {root : Node} (distinct : root.Distinct) {p c : Node} (hp : p ∈ root.nodes)
    (hc : c ∈ p.children) : root.Called c ↔ ∃ site arguments, p = .call site (some c) arguments := by
  constructor
  · rintro ⟨site, arguments, hcall⟩
    have hchild : c ∈ (call site (some c) arguments).children := List.mem_cons_self ..
    exact ⟨site, arguments, distinct.parent_unique hp hcall hc hchild rfl⟩
  · rintro ⟨site, arguments, rfl⟩
    exact ⟨site, arguments, hp⟩

end Node

namespace Parents

/-! ## The loop -/

/-- Entering the children of a node changes the entries of its children and no others. -/
theorem getElem?_enterChildren (p : Node) (table : Std.HashMap Nat Node) (k : Nat) :
    (enterChildren p table)[k]? =
      if k ∈ p.children.map Node.id then some p else table[k]? := by
  unfold enterChildren
  generalize p.children = cs
  induction cs generalizing table with
  | nil => simp
  | cons c cs ih =>
      rw [List.foldl_cons, ih, Std.HashMap.getElem?_insert, List.map_cons]
      by_cases hk : k ∈ cs.map Node.id
      · rw [if_pos hk, if_pos (List.mem_cons_of_mem _ hk)]
      · rw [if_neg hk]
        by_cases hc : c.id = k
        · simp [hc]
        · have hne : ¬ k = c.id := fun e => hc e.symm
          simp [hc, hk, hne]

/-- An entry of the filled table was there before, or comes from a node of a tree on the stack. -/
theorem fill_sound {stack : List Node} {table : Std.HashMap Nat Node} {k : Nat} {p : Node}
    (h : (fill stack table)[k]? = some p) :
    table[k]? = some p ∨ ∃ t ∈ stack, p ∈ t.nodes ∧ k ∈ p.children.map Node.id := by
  induction stack, table using fill.induct with
  | case1 table =>
      rw [fill] at h
      exact Or.inl h
  | case2 table n rest ih =>
      rw [fill] at h
      rcases ih h with hold | ⟨t, ht, hp, hk⟩
      · rw [getElem?_enterChildren] at hold
        split at hold
        · rename_i hk
          obtain rfl := Option.some.inj hold
          exact Or.inr ⟨n, List.mem_cons_self .., n.self_mem_nodes, hk⟩
        · exact Or.inl hold
      · rcases List.mem_append.mp ht with ht | ht
        · have hp' : p ∈ n.nodes := Node.mem_nodes.mpr (Or.inr ⟨t, List.mem_reverse.mp ht, hp⟩)
          exact Or.inr ⟨n, List.mem_cons_self .., hp', hk⟩
        · exact Or.inr ⟨t, List.mem_cons_of_mem _ ht, hp, hk⟩

/-- Filling keeps an entry for every identity that has one, and makes one for every child of a node of
a tree on the stack. -/
theorem fill_covers {stack : List Node} {table : Std.HashMap Nat Node} {k : Nat}
    (h : (table[k]?).isSome ∨ ∃ t ∈ stack, ∃ p ∈ t.nodes, k ∈ p.children.map Node.id) :
    ((fill stack table)[k]?).isSome := by
  induction stack, table using fill.induct with
  | case1 table =>
      rw [fill]
      rcases h with h | ⟨t, ht, -⟩
      · exact h
      · cases ht
  | case2 table n rest ih =>
      rw [fill]
      apply ih
      rw [getElem?_enterChildren]
      by_cases hk : k ∈ n.children.map Node.id
      · exact Or.inl (by rw [if_pos hk]; rfl)
      · rw [if_neg hk]
        rcases h with h | ⟨t, ht, p, hp, hkp⟩
        · exact Or.inl h
        · rcases List.mem_cons.mp ht with rfl | ht
          · rcases Node.mem_nodes.mp hp with rfl | ⟨c, hc, hp⟩
            · exact absurd hkp hk
            · exact Or.inr ⟨c, List.mem_append_left _ (List.mem_reverse.mpr hc), p, hp, hkp⟩
          · exact Or.inr ⟨t, List.mem_append_right _ ht, p, hp, hkp⟩

/-! ## Parents of a tree -/

section

variable {root : Node}

/-- What the table of a tree says of any node: its entry is a node that has a child of its identity. -/
theorem parent?_ofRoot_sound {n p : Node} (h : (ofRoot root).parent? n = some p) :
    p ∈ root.nodes ∧ ∃ c ∈ p.children, c.id = n.id := by
  rcases fill_sound h with hempty | ⟨t, ht, hp, hk⟩
  · simp at hempty
  · obtain rfl := List.mem_singleton.mp ht
    exact ⟨hp, List.mem_map.mp hk⟩

/-- The parent of a node of a tree is the node that has it among its children. -/
theorem parent?_ofRoot_eq_some_iff (h : root.Distinct) {n p : Node} (hn : n ∈ root.nodes) :
    (ofRoot root).parent? n = some p ↔ p ∈ root.nodes ∧ n ∈ p.children := by
  constructor
  · intro hp
    obtain ⟨hpm, c, hc, e⟩ := parent?_ofRoot_sound hp
    obtain rfl := h.eq_of_id_eq (Node.child_mem_nodes hpm hc) hn e
    exact ⟨hpm, hc⟩
  · rintro ⟨hpm, hc⟩
    have hsome : ((ofRoot root).parent? n).isSome :=
      fill_covers (Or.inr
        ⟨root, List.mem_singleton.mpr rfl, p, hpm, List.mem_map_of_mem hc⟩)
    obtain ⟨q, hq⟩ := Option.isSome_iff_exists.mp hsome
    obtain ⟨hqm, d, hd, e⟩ := parent?_ofRoot_sound hq
    rw [hq, h.parent_unique hqm hpm hd hc e]

/-- The table knows the callees of a tree. -/
theorem isCallee_ofRoot_iff (h : root.Distinct) {n : Node} (hn : n ∈ root.nodes) :
    (ofRoot root).isCallee n = true ↔ root.Called n := by
  unfold isCallee Node.Called
  constructor
  · intro hcallee
    split at hcallee
    · rename_i site callee arguments hp
      obtain ⟨hpm, -⟩ := parent?_ofRoot_sound hp
      have hcm := Node.child_mem_nodes hpm (c := callee) (by simp [Node.children])
      obtain rfl := h.eq_of_id_eq hcm hn (beq_iff_eq.mp hcallee)
      exact ⟨site, arguments, hpm⟩
    · cases hcallee
  · rintro ⟨site, arguments, hpm⟩
    have hp := (parent?_ofRoot_eq_some_iff h hn).mpr ⟨hpm, by simp [Node.children]⟩
    rw [hp]
    exact beq_self_eq_true n.id

theorem isCallee_callee (h : root.Distinct) {site : Site} {callee : Node} {arguments : List Node}
    (hn : Node.call site (some callee) arguments ∈ root.nodes) :
    (ofRoot root).isCallee callee = true :=
  (isCallee_ofRoot_iff h (Node.child_mem_nodes hn (by simp [Node.children]))).mpr
    ⟨site, arguments, hn⟩

theorem isCallee_child_iff (h : root.Distinct) {p c : Node} (hp : p ∈ root.nodes)
    (hc : c ∈ p.children) :
    (ofRoot root).isCallee c = true ↔ ∃ site arguments, p = .call site (some c) arguments := by
  rw [isCallee_ofRoot_iff h (Node.child_mem_nodes hp hc), Node.called_child_iff h hp hc]

/-- The parts of a member access are not called: they have that access for their parent, and no call. -/
theorem isCallee_of_mem_member (h : root.Distinct) {site : Site} {object property c : Node}
    {computed : Bool} (hn : Node.member site object property computed ∈ root.nodes)
    (hc : c ∈ (Node.member site object property computed).children) :
    (ofRoot root).isCallee c = false := by
  rw [Bool.eq_false_iff]
  intro hcallee
  obtain ⟨site', arguments, e⟩ := (isCallee_child_iff h hn hc).mp hcallee
  cases e

theorem isCallee_object (h : root.Distinct) {site : Site} {object property : Node} {computed : Bool}
    (hn : Node.member site object property computed ∈ root.nodes) :
    (ofRoot root).isCallee object = false :=
  isCallee_of_mem_member h hn (List.mem_cons_self ..)

end

end Parents

end ChainLint
