import Mathlib.Data.List.Basic
import Mathlib.Data.List.Flatten
import Mathlib.Data.List.Nodup
import Mathlib.Data.List.Pairwise
import Mathlib.Data.List.Perm.Basic
import ChainLint.Tree.Walk

/-!
# The walk as a recursion

`Node.walkFrom` keeps a stack of the steps still to take. Here the stack is removed: the walk over a
tree enters the root, walks the children from left to right and leaves the root (`walk_eq`), and the
nodes of a tree are the root and the nodes of its children (`nodes_eq`). Everything that is proved of all
nodes of a tree goes through these two equations.

`Distinct` says that no two nodes of a tree share an identity, `Complete` that every call has a callee.
-/

namespace ChainLint

/-- A site of which only the identity matters, for small trees that are written down as terms. -/
def Site.ofId (id : Nat) : Site := ⟨id, ⟨0, 0⟩, ⟨1, 0⟩⟩

namespace Node

/-! ## The walk -/

/-- The steps of several trees on the stack, once each of them is known to be taken by its own walk. -/
theorem walkFrom_map_enter {ns : List Node}
    (h : ∀ n ∈ ns, ∀ rest, walkFrom (.enter n :: rest) = n.walk ++ walkFrom rest)
    (rest : List Step) :
    walkFrom (ns.map .enter ++ rest) = ns.flatMap walk ++ walkFrom rest := by
  induction ns with
  | nil => rfl
  | cons n ns ih =>
      rw [List.map_cons, List.cons_append, h n (List.mem_cons_self ..),
        ih fun m hm => h m (List.mem_cons_of_mem _ hm), List.flatMap_cons, List.append_assoc]

/-- A tree on top of the stack is walked before anything below it is looked at. -/
theorem walkFrom_enter (n : Node) (rest : List Step) :
    walkFrom (.enter n :: rest) = n.walk ++ walkFrom rest := by
  induction n using induct generalizing rest with
  | step n ih =>
      rw [walk, walkFrom, walkFrom_map_enter ih, walkFrom, walkFrom, walkFrom_map_enter ih, walkFrom,
        walkFrom]
      simp only [List.cons_append, List.append_assoc, List.nil_append]

/-- **The walk as a recursion**: a node is entered, its children are walked in order, it is left. -/
theorem walk_eq (n : Node) :
    n.walk = .enter n :: (n.children.flatMap walk ++ [.leave n]) := by
  rw [walk, walkFrom, walkFrom_map_enter fun c _ => walkFrom_enter c, walkFrom, walkFrom]

/-! ## The nodes of a tree -/

/-- The nodes of a tree are its root and the nodes of the trees below it. -/
theorem nodes_eq (n : Node) : n.nodes = n :: n.children.flatMap nodes := by
  simp only [nodes, walk_eq n, List.filterMap_cons, List.filterMap_append, List.filterMap_flatMap,
    List.filterMap_nil, List.append_nil]
  rfl

theorem self_mem_nodes (n : Node) : n ∈ n.nodes := by
  rw [nodes_eq]
  exact List.mem_cons_self ..

theorem mem_nodes {m n : Node} : m ∈ n.nodes ↔ m = n ∨ ∃ c ∈ n.children, m ∈ c.nodes := by
  rw [nodes_eq, List.mem_cons, List.mem_flatMap]

/-- The trees below a node of a tree belong to the tree. -/
theorem nodes_subset {root n : Node} (h : n ∈ root.nodes) : n.nodes ⊆ root.nodes := by
  induction root using induct with
  | step root ih =>
      intro m hm
      rcases mem_nodes.mp h with rfl | ⟨c, hc, hn⟩
      · exact hm
      · exact mem_nodes.mpr (Or.inr ⟨c, hc, ih c hc hn hm⟩)

theorem child_mem_nodes {root n c : Node} (h : n ∈ root.nodes) (hc : c ∈ n.children) :
    c ∈ root.nodes :=
  nodes_subset h (mem_nodes.mpr (Or.inr ⟨c, hc, self_mem_nodes c⟩))

theorem size_le_of_mem_nodes {m n : Node} (h : m ∈ n.nodes) : m.size ≤ n.size := by
  induction n using induct with
  | step n ih =>
      rcases mem_nodes.mp h with rfl | ⟨c, hc, hm⟩
      · exact Nat.le_refl _
      · exact Nat.le_trans (ih c hc hm) (Nat.le_of_lt (size_lt_of_mem hc))

/-- A step of the walk is at a node of the tree. -/
theorem node_mem_nodes {root : Node} {step : Step} (h : step ∈ root.walk) :
    step.node ∈ root.nodes := by
  induction root using induct with
  | step root ih =>
      rw [walk_eq] at h
      rcases List.mem_cons.mp h with rfl | h
      · exact self_mem_nodes root
      · rcases List.mem_append.mp h with h | h
        · obtain ⟨c, hc, hs⟩ := List.mem_flatMap.mp h
          exact mem_nodes.mpr (Or.inr ⟨c, hc, ih c hc hs⟩)
        · obtain rfl := List.mem_singleton.mp h
          exact self_mem_nodes root

/-- Every node of the tree is left at some step of the walk. -/
theorem leave_mem_walk {root n : Node} (h : n ∈ root.nodes) : .leave n ∈ root.walk := by
  induction root using induct with
  | step root ih =>
      rw [walk_eq]
      refine List.mem_cons_of_mem _ (List.mem_append.mpr ?_)
      rcases mem_nodes.mp h with rfl | ⟨c, hc, hn⟩
      · exact .inr (List.mem_singleton.mpr rfl)
      · exact .inl (List.mem_flatMap.mpr ⟨c, hc, ih c hc hn⟩)

/-- Every node but the root is a child of exactly one place: the nodes are the root and, for each node,
its children. -/
theorem nodes_perm (root : Node) : root.nodes.Perm (root :: root.nodes.flatMap children) := by
  induction root using induct with
  | step root ih =>
      rw [nodes_eq root, List.flatMap_cons, List.flatMap_assoc]
      refine List.Perm.cons root ?_
      have hsplit : (root.children.flatMap fun c => [c] ++ c.nodes.flatMap children).Perm
          (root.children.flatMap (fun c => [c]) ++
            root.children.flatMap fun c => c.nodes.flatMap children) :=
        (List.flatMap_append_perm ..).symm
      rw [List.flatMap_singleton'] at hsplit
      exact (List.Perm.flatMap_left _ fun c hc => ih c hc).trans hsplit

theorem eq_or_exists_parent {m n : Node} (h : m ∈ n.nodes) : m = n ∨ ∃ p ∈ n.nodes, m ∈ p.children := by
  rcases List.mem_cons.mp ((nodes_perm n).mem_iff.mp h) with hself | hbelow
  · exact .inl hself
  · exact .inr (List.mem_flatMap.mp hbelow)

/-- The root is nobody's child. -/
theorem root_notMem_children {root n : Node} (hn : n ∈ root.nodes) : root ∉ n.children := by
  intro hchild
  exact Nat.not_le.mpr (size_lt_of_mem hchild) (size_le_of_mem_nodes hn)

/-! ## Well-formed trees -/

/-- No two nodes of the tree share an identity. -/
def Distinct (root : Node) : Prop := (root.nodes.map id).Nodup

/-- Every call of the tree has a callee. -/
def Complete (root : Node) : Prop :=
  ∀ site arguments, Node.call site none arguments ∉ root.nodes

theorem Distinct.eq_of_id_eq {root m n : Node} (h : root.Distinct) (hm : m ∈ root.nodes)
    (hn : n ∈ root.nodes) (e : m.id = n.id) : m = n :=
  List.inj_on_of_nodup_map h hm hn e

theorem Complete.of_mem {root n : Node} (h : root.Complete) (hn : n ∈ root.nodes) : n.Complete :=
  fun site arguments hc => h site arguments (nodes_subset hn hc)

theorem Complete.child {n c : Node} (h : n.Complete) (hc : c ∈ n.children) : c.Complete :=
  h.of_mem (child_mem_nodes (self_mem_nodes n) hc)

/-- In a tree of distinct nodes no node occurs twice among the children of all nodes. -/
theorem Distinct.nodup_children {root : Node} (h : root.Distinct) :
    ((root.nodes.flatMap children).map id).Nodup := by
  have hall : ((root :: root.nodes.flatMap children).map id).Nodup :=
    ((nodes_perm root).map id).nodup_iff.mp h
  exact hall.of_cons

/-- In a tree of distinct nodes a node is the child of one node only. -/
theorem Distinct.parent_unique {root p q c d : Node} (h : root.Distinct) (hp : p ∈ root.nodes)
    (hq : q ∈ root.nodes) (hc : c ∈ p.children) (hd : d ∈ q.children) (e : c.id = d.id) : p = q := by
  have hnodup := h.nodup_children
  rw [List.map_flatMap] at hnodup
  have : Std.Symm (Function.onFun List.Disjoint fun n : Node => n.children.map id) :=
    ⟨fun _ _ h => List.disjoint_symm h⟩
  by_contra hne
  have hdisjoint := (List.nodup_flatMap.mp hnodup).2.forall hp hq hne
  exact hdisjoint (List.mem_map_of_mem hc) (e ▸ List.mem_map_of_mem hd)

end Node

end ChainLint
