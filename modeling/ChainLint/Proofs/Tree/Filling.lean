import Mathlib.Data.List.Perm.Basic
import ChainLint.Proofs.Tree.Parents
import ChainLint.Proofs.Tree.PostOrder

/-!
# How the table of parents is filled

`Parents.fill` enters the nodes in the order in which they come off its stack, which is not the order of
the tree. `Turn` is one turn of this loop and `Turns` a run of them. A turn moves the node that it takes from
what is pending to what is taken (`Turn.perm_pending`), so that at every moment of a run these two make up the
nodes of the tree (`Turns.perm_nodes`). The table is a function of what has been taken (`Turns.table_eq`).

Both together give what the loop does. It takes every node once, and then it ends. In a tree of distinct nodes
no node is a child twice, so that no entry is written over (`Turns.fresh`) and the entries can be counted
(`Turns.size_table`). What the table says at the end is `Parents.Describes`.
-/

namespace ChainLint

namespace Parents

/-! ## Turns -/

/-- The loop between two turns. -/
structure Filling where
  /-- The nodes whose children are entered next, the first one on top. -/
  stack : List Node
  table : Std.HashMap Nat Node

namespace Filling

/-- At first the root is on the stack, and nothing has been entered. -/
def start (root : Node) : Filling := ⟨[root], ∅⟩

/-- The nodes that are still to be taken: those on the stack and all below them. -/
def pending (s : Filling) : List Node := s.stack.flatMap Node.nodes

theorem pending_start (root : Node) : (start root).pending = root.nodes := by
  rw [start, pending, List.flatMap_singleton]

theorem pending_eq_nil_iff {s : Filling} : s.pending = [] ↔ s.stack = [] := by
  rw [pending, List.flatMap_eq_nil_iff]
  constructor
  · intro h
    refine List.eq_nil_iff_forall_not_mem.mpr fun n hn => ?_
    have hself := n.self_mem_nodes
    rw [h n hn] at hself
    cases hself
  · intro h n hn
    rw [h] at hn
    cases hn

end Filling

/-- A turn takes the node on top of the stack, enters it as the parent of its children, and pushes these. -/
inductive Turn : Filling → Node → Filling → Prop
  | take (n : Node) (rest : List Node) (table : Std.HashMap Nat Node) :
      Turn ⟨n :: rest, table⟩ n ⟨n.children.reverse ++ rest, enterChildren n table⟩

/-- Several turns, with the nodes that they take. -/
inductive Turns : Filling → List Node → Filling → Prop
  | none (s : Filling) : Turns s [] s
  | more {s next last : Filling} {n : Node} {taken : List Node} :
      Turn s n next → Turns next taken last → Turns s (n :: taken) last

/-- The entries that are made when a node is taken. -/
def entries (p : Node) : List (Nat × Node) := p.children.map fun c => (c.id, p)

theorem enterChildren_eq (p : Node) (table : Std.HashMap Nat Node) :
    enterChildren p table = table.insertMany (entries p) := by
  unfold enterChildren entries
  generalize p.children = cs
  induction cs generalizing table with
  | nil => rw [List.foldl_nil, List.map_nil, Std.HashMap.insertMany_nil]
  | cons c cs ih => rw [List.foldl_cons, ih, List.map_cons, Std.HashMap.insertMany_cons]

variable {s next last : Filling} {n : Node} {taken : List Node}

theorem Turn.perm_pending (h : Turn s n next) : s.pending.Perm (n :: next.pending) := by
  cases h with
  | take n rest table =>
      have hchildren : (n.children.flatMap Node.nodes).Perm (n.children.reverse.flatMap Node.nodes) :=
        (List.reverse_perm n.children).symm.flatMap_right Node.nodes
      simp only [Filling.pending, List.flatMap_cons, List.flatMap_append]
      rw [n.nodes_eq, List.cons_append]
      exact List.Perm.cons n (hchildren.append_right _)

theorem Turn.table_eq (h : Turn s n next) : next.table = s.table.insertMany (entries n) := by
  cases h with
  | take n rest table => exact enterChildren_eq n table

theorem Turn.fill_eq (h : Turn s n next) : fill s.stack s.table = fill next.stack next.table := by
  cases h with
  | take n rest table => rw [fill]

/-! ## Runs -/

theorem Turns.perm_pending (h : Turns s taken last) : s.pending.Perm (taken ++ last.pending) := by
  induction h with
  | none => exact List.Perm.refl _
  | more hturn _ ih => exact hturn.perm_pending.trans (List.Perm.cons _ ih)

theorem Turns.table_eq (h : Turns s taken last) :
    last.table = s.table.insertMany (taken.flatMap entries) := by
  induction h with
  | none => rw [List.flatMap_nil, Std.HashMap.insertMany_nil]
  | more hturn _ ih => rw [ih, hturn.table_eq, List.flatMap_cons, Std.HashMap.insertMany_append]

theorem Turns.fill_eq (h : Turns s taken last) :
    fill s.stack s.table = fill last.stack last.table := by
  induction h with
  | none => rfl
  | more hturn _ ih => rw [hturn.fill_eq, ih]

theorem Turns.snoc (h : Turns s taken last) (hturn : Turn last n next) :
    Turns s (taken ++ [n]) next := by
  induction h with
  | none s => exact .more hturn (.none next)
  | more hfirst _ ih => exact .more hfirst (ih hturn)

/-- The loop comes to an end, and there its table is the filled one. -/
theorem exists_turns_fill (stack : List Node) (table : Std.HashMap Nat Node) :
    ∃ taken, Turns ⟨stack, table⟩ taken ⟨[], fill stack table⟩ := by
  induction stack, table using fill.induct with
  | case1 table =>
      rw [fill]
      exact ⟨[], .none _⟩
  | case2 table n rest ih =>
      obtain ⟨taken, hrun⟩ := ih
      rw [fill]
      exact ⟨n :: taken, .more (.take n rest table) hrun⟩

/-! ## Runs over a tree -/

section

variable {root : Node}

theorem Turns.perm_nodes (h : Turns (.start root) taken s) :
    (taken ++ s.pending).Perm root.nodes := by
  have hpending := h.perm_pending
  rw [Filling.pending_start] at hpending
  exact hpending.symm

theorem Turns.length_le (h : Turns (.start root) taken s) : taken.length ≤ root.nodes.length := by
  have hlength := h.perm_nodes.length_eq
  rw [List.length_append] at hlength
  omega

theorem Turns.perm_of_stack (h : Turns (.start root) taken s) (hstack : s.stack = []) :
    taken.Perm root.nodes := by
  have hpending := Filling.pending_eq_nil_iff.mpr hstack
  have hperm := h.perm_nodes
  rwa [hpending, List.append_nil] at hperm

theorem Turns.table_of_stack (h : Turns (.start root) taken s) (hstack : s.stack = []) :
    s.table = (ofRoot root).table := by
  have hfill := h.fill_eq
  rw [hstack, fill] at hfill
  exact hfill.symm

theorem map_fst_entries (ns : List Node) :
    (ns.flatMap entries).map Prod.fst = (ns.flatMap Node.children).map Node.id := by
  rw [List.map_flatMap, List.map_flatMap]
  refine List.flatMap_congr fun p _ => ?_
  rw [entries, List.map_map]
  rfl

theorem Turns.mem_table_iff (h : Turns (.start root) taken s) {k : Nat} :
    k ∈ s.table ↔ k ∈ (taken.flatMap Node.children).map Node.id := by
  have hstart : k ∉ (Filling.start root).table := Std.HashMap.not_mem_empty
  rw [h.table_eq, Std.HashMap.mem_insertMany_list, map_fst_entries, List.contains_iff_mem,
    or_iff_right hstart]

/-- What has been taken has no child in common. -/
theorem Turns.nodup_children (h : Turns (.start root) taken s) (distinct : root.Distinct) :
    ((taken.flatMap Node.children).map Node.id).Nodup := by
  have hall := (h.perm_nodes.flatMap_right Node.children).map Node.id
  have hnodup := hall.nodup_iff.mpr distinct.nodup_children
  rw [List.flatMap_append, List.map_append] at hnodup
  exact hnodup.of_append_left

/-- No entry is written over: a child of the node that is taken has none before. -/
theorem Turns.fresh (h : Turns (.start root) taken s) (distinct : root.Distinct) (hturn : Turn s n next)
    {c : Node} (hc : c ∈ n.children) : c.id ∉ s.table := by
  have hnodup := (h.snoc hturn).nodup_children distinct
  rw [List.flatMap_append, List.flatMap_singleton, List.map_append] at hnodup
  rw [h.mem_table_iff]
  intro htaken
  exact List.disjoint_of_nodup_append hnodup htaken (List.mem_map_of_mem hc)

theorem Turns.size_table (h : Turns (.start root) taken s) (distinct : root.Distinct) :
    s.table.size = (taken.flatMap Node.children).length := by
  have hkeys : (taken.flatMap entries).Pairwise fun a b => (a.1 == b.1) = false := by
    have hnodup := h.nodup_children distinct
    rw [← map_fst_entries, List.Nodup, List.pairwise_map] at hnodup
    exact hnodup.imp beq_false_of_ne
  have hlength := congrArg List.length (map_fst_entries taken)
  rw [List.length_map, List.length_map] at hlength
  have hempty : (Filling.start root).table.size = 0 := Std.HashMap.size_empty
  have hsize : ((Filling.start root).table.insertMany (taken.flatMap entries)).size =
      (Filling.start root).table.size + (taken.flatMap entries).length :=
    Std.HashMap.size_insertMany_list hkeys fun k hk => absurd hk Std.HashMap.not_mem_empty
  rw [h.table_eq, hsize, hempty, hlength, Nat.zero_add]

end

/-! ## The parent relation -/

/-- The table holds the parent relation of a tree: it has an entry for every node but the root, and for
nothing else; the entry of a node is the node that has it for a child; and a node is known as a callee if and
only if it is the first child of a call. -/
structure Describes (p : Parents) (root : Node) : Prop where
  keys : ∀ k, k ∈ p.table ↔ ∃ n ∈ root.nodes, n ≠ root ∧ n.id = k
  size : p.size + 1 = root.nodes.length
  parent : ∀ n ∈ root.nodes, ∀ m, p.parent? n = some m ↔ m ∈ root.nodes ∧ n ∈ m.children
  callee : ∀ n ∈ root.nodes, p.isCallee n = true ↔
    ∃ site callee arguments, .call site (some callee) arguments ∈ root.nodes ∧
      (Node.call site (some callee) arguments).children.head? = some n
  argument : ∀ site callee arguments, .call site callee arguments ∈ root.nodes →
    ∀ n ∈ arguments, p.isCallee n = false
  access : ∀ site object property computed, .member site object property computed ∈ root.nodes →
    p.isCallee object = false ∧ p.isCallee property = false
  root : p.isCallee root = false

section

variable {root : Node} (distinct : root.Distinct)

include distinct

/-- The children in a tree are the nodes other than the root. -/
theorem mem_map_children_iff {k : Nat} :
    k ∈ (root.nodes.flatMap Node.children).map Node.id ↔ ∃ n ∈ root.nodes, n ≠ root ∧ n.id = k := by
  constructor
  · intro hk
    obtain ⟨c, hc, rfl⟩ := List.mem_map.mp hk
    obtain ⟨p, hp, hcp⟩ := List.mem_flatMap.mp hc
    refine ⟨c, Node.child_mem_nodes hp hcp, ?_, rfl⟩
    rintro rfl
    exact Node.root_notMem_children hp hcp
  · rintro ⟨n, hn, hne, rfl⟩
    rcases Node.eq_or_exists_parent hn with rfl | hparent
    · exact absurd rfl hne
    · exact List.mem_map_of_mem (List.mem_flatMap.mpr hparent)

theorem isCallee_argument {site : Site} {callee : Option Node} {arguments : List Node}
    (hcall : .call site callee arguments ∈ root.nodes) {n : Node} (hn : n ∈ arguments) :
    (ofRoot root).isCallee n = false := by
  have hchild : n ∈ (Node.call site callee arguments).children := List.mem_append_right _ hn
  rw [Bool.eq_false_iff]
  intro hcallee
  obtain ⟨site', arguments', e⟩ := (isCallee_child_iff distinct hcall hchild).mp hcallee
  obtain ⟨-, rfl, rfl⟩ := Node.call.inj e
  -- The node would be the callee and an argument of one call.
  have hpairwise := (distinct.of_mem hcall).disjoint_children
  exact (List.pairwise_cons.mp hpairwise).1 n hn n n.self_mem_nodes n n.self_mem_nodes rfl

theorem ofRoot_describes : (ofRoot root).Describes root := by
  obtain ⟨taken, hrun⟩ : ∃ taken, Turns (.start root) taken ⟨[], (ofRoot root).table⟩ :=
    exists_turns_fill [root] ∅
  have htaken := (hrun.perm_of_stack rfl).flatMap_right Node.children
  have hnodes := (Node.nodes_perm root).length_eq
  rw [List.length_cons] at hnodes
  constructor
  case keys =>
    intro k
    rw [hrun.mem_table_iff, (htaken.map Node.id).mem_iff, mem_map_children_iff distinct]
  case size =>
    rw [hnodes, ← htaken.length_eq, ← hrun.size_table distinct]
    rfl
  case parent =>
    intro n hn m
    exact parent?_ofRoot_eq_some_iff distinct hn
  case callee =>
    intro n hn
    rw [isCallee_ofRoot_iff distinct hn]
    constructor
    · rintro ⟨site, arguments, hcall⟩
      exact ⟨site, n, arguments, hcall, rfl⟩
    · rintro ⟨site, callee, arguments, hcall, hfirst⟩
      obtain rfl := Option.some.inj hfirst
      exact ⟨site, arguments, hcall⟩
  case argument =>
    intro site callee arguments hcall n hn
    exact isCallee_argument distinct hcall hn
  case access =>
    intro site object property computed hn
    exact ⟨isCallee_of_mem_member distinct hn (by simp [Node.children]),
      isCallee_of_mem_member distinct hn (by simp [Node.children])⟩
  case root =>
    rw [Bool.eq_false_iff, Ne, isCallee_ofRoot_iff distinct root.self_mem_nodes]
    exact Node.not_called_self root

end

/-- **The table of parents is the parent relation.** Over a tree of distinct nodes the loop that fills the
table takes every node once and then ends, whatever the depth of the tree. No run of it is longer, a turn
never writes over an entry, and a run that has emptied the stack has filled the table. The table then holds
the parent relation of the tree, and knows the callees. -/
theorem filled_describes {root : Node} (distinct : root.Distinct) :
    (∃ taken, Turns (.start root) taken ⟨[], (ofRoot root).table⟩ ∧ taken.Perm root.nodes) ∧
    (∀ taken s, Turns (.start root) taken s →
      taken.length ≤ root.nodes.length ∧
      (∀ n next, Turn s n next → ∀ c ∈ n.children, c.id ∉ s.table) ∧
      (s.stack = [] → s.table = (ofRoot root).table)) ∧
    (ofRoot root).Describes root := by
  refine ⟨?_, fun taken s hrun => ⟨?_, fun n next hturn c hc => ?_, fun hstack => ?_⟩, ?_⟩
  · obtain ⟨taken, hrun⟩ := exists_turns_fill [root] ∅
    exact ⟨taken, hrun, hrun.perm_of_stack rfl⟩
  · exact hrun.length_le
  · exact hrun.fresh distinct hturn hc
  · exact hrun.table_of_stack hstack
  · exact ofRoot_describes distinct

/-- The argument of `$x.each(f)`. -/
def visitor : Node := .identifier (.ofId 4) "f"

/-- The callee of `$x.each(f)`. -/
def visit : Node := .member (.ofId 1) (.identifier (.ofId 2) "$x") (.identifier (.ofId 3) "each") false

/-- The call `$x.each(f)`. -/
def visitCall : Node := .call (.ofId 0) (some visit) [visitor]

theorem filled_describes_visitCall :
    visitCall.Distinct ∧ (ofRoot visitCall).size = 4 ∧
      (ofRoot visitCall).parent? visitor = some visitCall ∧
      (ofRoot visitCall).isCallee visit = true ∧ (ofRoot visitCall).isCallee visitor = false := by
  have hnodes : visitCall.nodes =
      [visitCall, visit, .identifier (.ofId 2) "$x", .identifier (.ofId 3) "each", visitor] := by
    simp [visitCall, visit, visitor, Node.nodes_eq, Node.children]
  have distinct : visitCall.Distinct := by
    rw [Node.Distinct, hnodes]
    decide
  obtain ⟨-, -, describes⟩ := filled_describes distinct
  have hself := visitCall.self_mem_nodes
  have hsize := describes.size
  rw [hnodes] at hsize
  have hvisitor : visitor ∈ visitCall.nodes := by simp [hnodes]
  have hvisit : visit ∈ visitCall.nodes := by simp [hnodes]
  refine ⟨distinct, Nat.succ.inj hsize, ?_, ?_, ?_⟩
  · exact (describes.parent visitor hvisitor visitCall).mpr
      ⟨hself, by simp [visitCall, Node.children]⟩
  · exact (describes.callee visit hvisit).mpr ⟨_, _, _, hself, rfl⟩
  · exact describes.argument _ _ _ hself visitor (List.mem_singleton.mpr rfl)

end Parents

end ChainLint
