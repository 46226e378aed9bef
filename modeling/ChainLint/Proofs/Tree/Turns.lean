import ChainLint.Proofs.Tree.PostOrder

/-!
# The walk turn by turn

`Node.walkFrom` takes the steps on a stack one after the other. `Turn` is one of its turns and `Turns` a
run of them. Every turn takes one step off what the stack stands for (`Turn.pending_eq`), where a node to
be entered stands for the whole walk over it. So a run that begins with the root has at every moment taken
the first steps of the recursive walk, and the others stand on the stack (`Turns.pending_eq`); it ends,
and when it ends, all steps have been taken (`turns_iff`).

The walk enters and leaves every node once (`walk_perm`), and the steps at the nodes of a part of the
tree come in a row (`exists_walk_eq_append`).
-/

namespace ChainLint

/-- Whether a step enters a node or leaves it, and which node this is. -/
def Step.key : Step → Bool × Nat
  | .enter n => (true, n.id)
  | .leave n => (false, n.id)

namespace Node

/-! ## Turns -/

/-- A turn takes the step on top of the stack and pushes what it leads to. -/
inductive Turn : List Step → Step → List Step → Prop
  | leave (n : Node) (rest : List Step) : Turn (.leave n :: rest) (.leave n) rest
  | enter (n : Node) (rest : List Step) :
      Turn (.enter n :: rest) (.enter n) (n.children.map .enter ++ .leave n :: rest)

/-- Several turns, with the steps that they take. -/
inductive Turns : List Step → List Step → List Step → Prop
  | none (stack : List Step) : Turns stack [] stack
  | more {stack next last steps : List Step} {step : Step} :
      Turn stack step next → Turns next steps last → Turns stack (step :: steps) last

/-- The steps that a stack stands for. -/
def pending (stack : List Step) : List Step :=
  stack.flatMap fun
    | .enter n => n.walk
    | .leave n => [.leave n]

theorem pending_cons_enter (n : Node) (rest : List Step) :
    pending (.enter n :: rest) = n.walk ++ pending rest := rfl

theorem pending_map_enter (ns : List Node) (rest : List Step) :
    pending (ns.map .enter ++ rest) = ns.flatMap walk ++ pending rest := by
  rw [pending, List.flatMap_append, List.flatMap_map]
  rfl

variable {stack next last steps : List Step} {step : Step}

theorem Turn.pending_eq (h : Turn stack step next) : pending stack = step :: pending next := by
  cases h with
  | leave n => rfl
  | enter n rest =>
      rw [pending_cons_enter, walk_eq, pending_map_enter, List.cons_append, List.append_assoc]
      rfl

theorem Turns.pending_eq (h : Turns stack steps last) : pending stack = steps ++ pending last := by
  induction h with
  | none => rfl
  | more hturn _ ih => rw [hturn.pending_eq, ih, List.cons_append]

theorem turns_walkFrom (stack : List Step) : Turns stack (walkFrom stack) [] := by
  induction stack using walkFrom.induct with
  | case1 =>
      rw [walkFrom]
      exact .none []
  | case2 n rest ih =>
      rw [walkFrom]
      exact .more (.leave n rest) ih
  | case3 n rest ih =>
      rw [walkFrom]
      exact .more (.enter n rest) ih

/-- The walk over a tree is what a run takes that begins with the root and leaves nothing. -/
theorem turns_iff {root : Node} : Turns [.enter root] steps [] ↔ steps = root.walk := by
  constructor
  · intro h
    have hpending := h.pending_eq
    rw [pending_cons_enter] at hpending
    simpa [pending] using hpending.symm
  · rintro rfl
    exact turns_walkFrom [.enter root]

/-! ## Every node once -/

variable {root n : Node}

theorem walk_perm (root : Node) :
    root.walk.Perm (root.nodes.map .enter ++ root.nodes.map .leave) := by
  induction root using induct with
  | step root ih =>
      have hbelow : (root.children.flatMap walk).Perm
          ((root.children.flatMap nodes).map .enter ++ (root.children.flatMap nodes).map .leave) := by
        rw [List.map_flatMap, List.map_flatMap]
        exact (List.Perm.flatMap_left _ ih).trans (List.flatMap_append_perm ..).symm
      rw [walk_eq, nodes_eq, List.map_cons, List.map_cons, List.cons_append]
      refine List.Perm.cons _ ?_
      exact (hbelow.append_right _).trans (List.append_assoc .. ▸ List.Perm.append_left _
        (List.perm_append_comm ..))

theorem Turns.length_le (h : Turns [.enter root] steps stack) :
    steps.length ≤ 2 * root.nodes.length := by
  have hpending := congrArg List.length h.pending_eq
  have hwalk := (walk_perm root).length_eq
  simp only [pending_cons_enter, List.length_append, List.length_map] at hpending hwalk
  have hempty : pending [] = [] := rfl
  rw [hempty, List.length_nil] at hpending
  omega

theorem Distinct.nodup_walk (distinct : root.Distinct) : (root.walk.map Step.key).Nodup := by
  have hids : (root.nodes.map id).Nodup := distinct
  have henter : (root.nodes.map .enter).map Step.key = (root.nodes.map id).map (Prod.mk true) := by
    simp [Step.key, Function.comp_def]
  have hleave : (root.nodes.map .leave).map Step.key = (root.nodes.map id).map (Prod.mk false) := by
    simp [Step.key, Function.comp_def]
  rw [((walk_perm root).map Step.key).nodup_iff, List.map_append, henter, hleave, List.nodup_append']
  have hpair : ∀ b : Bool, Function.Injective (Prod.mk b : Nat → Bool × Nat) :=
    fun b i j e => congrArg Prod.snd e
  refine ⟨hids.map (hpair true), hids.map (hpair false), ?_⟩
  intro key hin hout
  obtain ⟨i, -, rfl⟩ := List.mem_map.mp hin
  obtain ⟨j, -, e⟩ := List.mem_map.mp hout
  cases e

/-! ## Parts -/

theorem walk_infix (hn : n ∈ root.nodes) : n.walk <:+: root.walk := by
  induction root using induct with
  | step root ih =>
      rcases mem_nodes.mp hn with rfl | ⟨c, hc, hn⟩
      · exact List.infix_refl _
      · have hchild : c.walk <:+: root.children.flatMap walk :=
          List.infix_of_mem_flatten (List.mem_map_of_mem hc)
        rw [walk_eq root]
        exact (ih c hc hn).trans (hchild.trans ⟨[.enter root], [.leave root], by simp⟩)

/-- The walk over a part of the tree is a stretch of the walk, and at no other step it is at one of the
nodes of the part. -/
theorem exists_walk_eq_append (distinct : root.Distinct) (hn : n ∈ root.nodes) :
    ∃ before after, root.walk = before ++ n.walk ++ after ∧
      ∀ step ∈ before ++ after, step.node.id ∉ n.nodes.map id := by
  obtain ⟨before, after, hwalk⟩ := walk_infix hn
  refine ⟨before, after, hwalk.symm, fun step hstep hid => ?_⟩
  -- The part has a step of its own that enters or leaves this node.
  have hown : step.key ∈ n.walk.map Step.key := by
    obtain ⟨m, hm, e⟩ := List.mem_map.mp hid
    cases step with
    | enter k =>
        have henter : Step.enter m ∈ n.walk := (walk_perm n).mem_iff.mpr (by simp [hm])
        exact List.mem_map.mpr ⟨_, henter, congrArg (Prod.mk true) e⟩
    | leave k =>
        have hleave : Step.leave m ∈ n.walk := (walk_perm n).mem_iff.mpr (by simp [hm])
        exact List.mem_map.mpr ⟨_, hleave, congrArg (Prod.mk false) e⟩
  have hnodup := distinct.nodup_walk
  rw [← hwalk, List.map_append, List.map_append] at hnodup
  have hkey := List.mem_map_of_mem (f := Step.key) hstep
  rw [List.map_append, List.mem_append] at hkey
  rcases hkey with hbefore | hafter
  · exact List.disjoint_of_nodup_append (List.Nodup.of_append_left hnodup) hbefore hown
  · exact List.disjoint_of_nodup_append hnodup (List.mem_append_right _ hown) hafter

end Node

end ChainLint
