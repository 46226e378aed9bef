import Mathlib.Tactic.MkIffOfInductiveProp
import ChainLint.Proofs.Tree.Traversal

/-!
# The order in which nodes are left

A walk leaves every node once, and after all nodes below it (`exits`). So of two nodes the one that is
left later is not below the other (`pairwise_exits`). If the ranges of the tree are nested like its nodes,
the one that is left later does not end before the other either (`Nests.pairwise_exits`), whether it
stands above it or to its right.
-/

namespace ChainLint.Node

variable {root m n : Node}

/-- The nodes of a tree in the order in which the walk leaves them. -/
def exits (root : Node) : List Node :=
  root.walk.filterMap fun
    | .enter _ => none
    | .leave n => some n

/-- The nodes of the children are left in order, and then the node itself. -/
theorem exits_eq (n : Node) : n.exits = n.children.flatMap exits ++ [n] := by
  simp only [exits, walk_eq n, List.filterMap_cons, List.filterMap_append, List.filterMap_flatMap,
    List.filterMap_nil]
  rfl

/-- All nodes are left, each as often as it is entered. -/
theorem exits_perm (root : Node) : root.exits.Perm root.nodes := by
  induction root using induct with
  | step root ih =>
      rw [exits_eq, nodes_eq]
      exact List.perm_append_comm.trans (List.Perm.cons root (List.Perm.flatMap_left _ ih))

theorem mem_exits : m ∈ root.exits ↔ m ∈ root.nodes := (exits_perm root).mem_iff

/-- Something holds of any two nodes in the order in which they are left if it holds of any two nodes
below different children, and of a node and the node above it. -/
theorem pairwise_exits_of {R : Node → Node → Prop}
    (hbelow : ∀ p ∈ root.nodes, ∀ c ∈ p.children, ∀ m ∈ c.nodes, R m p)
    (hbeside : ∀ p ∈ root.nodes,
      p.children.Pairwise fun c d => ∀ m ∈ c.nodes, ∀ n ∈ d.nodes, R m n) :
    root.exits.Pairwise R := by
  induction root using induct with
  | step root ih =>
      have hself := self_mem_nodes root
      rw [exits_eq, List.pairwise_append]
      refine ⟨List.pairwise_flatMap.mpr ⟨fun c hc => ?_, ?_⟩, List.pairwise_singleton .., ?_⟩
      · have hsub := nodes_subset (child_mem_nodes hself hc)
        exact ih c hc (fun p hp => hbelow p (hsub hp)) fun p hp => hbeside p (hsub hp)
      · exact (hbeside root hself).imp fun h m hm n hn => h m (mem_exits.mp hm) n (mem_exits.mp hn)
      · intro m hm p hp
        obtain rfl := List.mem_singleton.mp hp
        obtain ⟨c, hc, hm⟩ := List.mem_flatMap.mp hm
        exact hbelow p hself c hc m (mem_exits.mp hm)

/-! ## Below and beside -/

theorem nodes_sublist (h : n ∈ root.nodes) : n.nodes.Sublist root.nodes := by
  induction root using induct with
  | step root ih =>
      rcases mem_nodes.mp h with rfl | ⟨c, hc, hn⟩
      · exact List.Sublist.refl _
      · have hchild : c.nodes.Sublist (root.children.flatMap nodes) :=
          List.sublist_flatten_of_mem (List.mem_map_of_mem hc)
        rw [nodes_eq root]
        exact (ih c hc hn).trans (hchild.trans (List.sublist_cons_self ..))

theorem Distinct.of_mem (h : root.Distinct) (hn : n ∈ root.nodes) : n.Distinct :=
  List.Nodup.sublist ((nodes_sublist hn).map id) h

/-- In a tree of distinct nodes no node is below two children of a node. -/
theorem Distinct.disjoint_children (h : n.Distinct) :
    n.children.Pairwise fun c d => ∀ m ∈ c.nodes, ∀ k ∈ d.nodes, m.id ≠ k.id := by
  unfold Distinct at h
  rw [nodes_eq, List.map_cons, List.map_flatMap] at h
  obtain ⟨-, hdisjoint⟩ := List.nodup_flatMap.mp h.of_cons
  exact hdisjoint.imp fun hcd m hm k hk e =>
    hcd (List.mem_map_of_mem hm) (e ▸ List.mem_map_of_mem hk)

/-- Of two nodes the one that is left later is another one, and not below the first. -/
theorem pairwise_exits (distinct : root.Distinct) :
    root.exits.Pairwise fun m n => m.id ≠ n.id ∧ n ∉ m.nodes := by
  refine pairwise_exits_of (fun p hp c hc m hm => ?_) fun p hp => ?_
  -- A node above is larger than what is below it.
  · have hlt : m.size < p.size := Nat.lt_of_le_of_lt (size_le_of_mem_nodes hm) (size_lt_of_mem hc)
    have hmroot := nodes_subset (child_mem_nodes hp hc) hm
    refine ⟨fun e => ?_, fun h => ?_⟩
    · rw [distinct.eq_of_id_eq hmroot hp e] at hlt
      exact Nat.lt_irrefl _ hlt
    · exact Nat.not_le.mpr hlt (size_le_of_mem_nodes h)
  · exact (distinct.of_mem hp).disjoint_children.imp fun hcd m hm k hk =>
      ⟨hcd m hm k hk, fun h => hcd k (nodes_subset hm h) k hk rfl⟩

/-! ## Nested ranges -/

/-- A node begins before it ends, and its children stand in it one after the other. -/
@[mk_iff]
structure Nested (n : Node) : Prop where
  ordered : n.span.start ≤ n.span.stop
  inside : ∀ c ∈ n.children, n.span.start ≤ c.span.start ∧ c.span.stop ≤ n.span.stop
  siblings : n.children.Pairwise fun c d => c.span.stop ≤ d.span.start

instance (n : Node) : Decidable n.Nested := decidable_of_iff _ n.nested_iff.symm

/-- The ranges of a tree are nested like its nodes. -/
def Nests (root : Node) : Prop := ∀ n ∈ root.nodes, n.Nested

theorem Nests.of_mem (h : root.Nests) (hn : n ∈ root.nodes) : n.Nests :=
  fun m hm => h m (nodes_subset hn hm)

theorem Nests.inside (h : n.Nests) (hm : m ∈ n.nodes) :
    n.span.start ≤ m.span.start ∧ m.span.stop ≤ n.span.stop := by
  induction n using induct with
  | step n ih =>
      rcases mem_nodes.mp hm with rfl | ⟨c, hc, hm⟩
      · exact ⟨Int.le_refl _, Int.le_refl _⟩
      · obtain ⟨hstart, hstop⟩ := (h n (self_mem_nodes n)).inside c hc
        obtain ⟨hstart', hstop'⟩ := ih c hc (h.of_mem (child_mem_nodes (self_mem_nodes n) hc)) hm
        exact ⟨Int.le_trans hstart hstart', Int.le_trans hstop' hstop⟩

/-- A node that is left later does not end before. -/
theorem Nests.pairwise_exits (nests : root.Nests) :
    root.exits.Pairwise fun m n => m.span.stop ≤ n.span.stop := by
  refine pairwise_exits_of (fun p hp c hc m hm => ?_) fun p hp => ?_
  · exact ((nests.of_mem hp).inside (mem_nodes.mpr (.inr ⟨c, hc, hm⟩))).2
  · have hbelow : ∀ c ∈ p.children, c.Nests := fun c hc => nests.of_mem (child_mem_nodes hp hc)
    refine (nests p hp).siblings.imp_of_mem fun {c d} hc hd hcd m hm k hk => ?_
    have hm := ((hbelow c hc).inside hm).2
    have hstart := ((hbelow d hd).inside hk).1
    have hordered := (hbelow d hd k hk).ordered
    -- The one ends before the gap between the two children, the other begins behind it.
    omega

end ChainLint.Node
