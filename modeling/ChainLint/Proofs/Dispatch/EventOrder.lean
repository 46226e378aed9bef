import ChainLint.Proofs.Dispatch.Statements
import ChainLint.Proofs.Tree.Turns

/-!
# Who is told of what, and when

The handlers of all rules stand in one list, in the order of registration. A handler is told of a node
when the walk takes a step that the selector of the handler names. `events` lists these events by
recursion: at a node come those for entering it, then those of its children from left to right, then those
for leaving it. A run fires exactly these events, in this order, and up to the first that fails
(`run_follows_events`), whatever the handlers answer. It may have been built by rules of any kind.

Since a node could be of a kind that looks like the leaving of another kind, it takes an assumption on the
kinds to say of a single handler of which nodes it is told.
-/

namespace ChainLint

/-- A handler, with its place among all handlers, is told of a node. -/
structure Event where
  handler : Handler
  place : Nat
  node : Node

def Event.fire (e : Event) : Except ChainError (List Finding) := e.handler.handle e.node

/-- No node of the tree is of a kind that is named like the leaving of nodes of another kind. -/
def Node.Unmarked (root : Node) : Prop :=
  ∀ site kind nodes, Node.other site kind nodes ∈ root.nodes → ∀ text, kind ≠ text ++ ":exit"

namespace Dispatch

/-! ## The recursion -/

/-- The handlers that a selector names are told of a node, in their order. -/
def told (hs : List Handler) (selector : String) (n : Node) : List Event :=
  (hs.zipIdx.filter fun h => h.1.selector == selector).map fun h => ⟨h.1, h.2, n⟩

/-- The events at the nodes of a tree. -/
def events (hs : List Handler) (n : Node) : List Event :=
  told hs n.kind n ++ n.children.attach.flatMap (fun c => events hs c.1) ++
    told hs (n.kind ++ ":exit") n
termination_by n.size
decreasing_by exact Node.size_lt_of_mem c.2

variable {hs : List Handler} {root n : Node}

theorem events_eq (hs : List Handler) (n : Node) :
    events hs n =
      told hs n.kind n ++ n.children.flatMap (events hs) ++ told hs (n.kind ++ ":exit") n := by
  rw [events, List.flatMap_subtype (g := events hs) fun _ _ => rfl, List.unattach_attach]

/-- The recursion takes the steps of the walk. -/
theorem events_eq_walk (hs : List Handler) (n : Node) :
    events hs n = n.walk.flatMap fun step => told hs step.selector step.node := by
  induction n using Node.induct with
  | step n ih =>
      rw [events_eq, Node.walk_eq, List.flatMap_congr ih, List.flatMap_cons, List.flatMap_append,
        List.flatMap_assoc, List.flatMap_singleton, List.append_assoc]
      rfl

/-! ## The run -/

theorem atStep_eq_fire (hs : List Handler) (step : Step) :
    atStep hs step = ((told hs step.selector step.node).mapM Event.fire).map List.flatten := by
  have hselected : hs.filter (·.selector == step.selector) =
      (hs.zipIdx.filter fun h => h.1.selector == step.selector).map Prod.fst := by
    conv_lhs => rw [← List.zipIdx_map_fst 0 hs, List.filter_map]
    rfl
  rw [atStep, hselected, told, List.mapM_map, List.mapM_map]
  rfl

/-- A walk fires the events of its steps. -/
theorem onWalk_eq_fire (hs : List Handler) (steps : List Step) :
    onWalk hs steps =
      ((steps.flatMap fun step => told hs step.selector step.node).mapM Event.fire).map
        List.flatten := by
  rw [onWalk_eq, flatten_mapM_flatMap]
  exact congrArg (Except.map List.flatten) (mapM_congr fun step _ => atStep_eq_fire hs step)

theorem run_eq_fire (v : Vocabulary) (root : Node) (rules : List (String × Rule))
    (options : OptionsTable) :
    (run v root rules options).result =
      ((events (handlers v (.ofRoot root) options rules) root).mapM Event.fire).map fun found =>
        ⟨report found.flatten, found.flatten.filterMap Finding.visit?⟩ := by
  have hwalk := onWalk_eq_fire (handlers v (.ofRoot root) options rules) root.walk
  rw [← events_eq_walk] at hwalk
  dsimp only [run]
  simp only [Attempt.result_bind, Attempt.result_note, Attempt.result_lift, ok_bind, hwalk]
  cases (events (handlers v (.ofRoot root) options rules) root).mapM Event.fire <;> rfl

/-! ## One handler -/

variable {h : Handler} {place : Nat}

theorem filter_zipIdx {k : Nat} (hplace : hs[place]? = some h) :
    (hs.zipIdx k).filter (fun g => g.2 == k + place) = [(h, k + place)] := by
  induction hs generalizing k place with
  | nil => simp at hplace
  | cons g hs ih =>
      rw [List.zipIdx_cons, List.filter_cons]
      cases place with
      | zero =>
          obtain rfl : g = h := by simpa using hplace
          have hlater : (hs.zipIdx (k + 1)).filter (fun f => f.2 == k) = [] := by
            rw [List.filter_eq_nil_iff]
            rintro ⟨f, i⟩ hf
            have hle := (List.mem_zipIdx hf).1
            simp only [beq_iff_eq]
            omega
          rw [Nat.add_zero, hlater, if_pos (beq_self_eq_true k)]
      | succ place =>
          have hrest : hs[place]? = some h := by simpa using hplace
          have hshift : k + (place + 1) = k + 1 + place := by omega
          rw [hshift, ih hrest, if_neg]
          simp only [beq_iff_eq]
          omega

theorem filter_told (hplace : hs[place]? = some h) (selector : String) (n : Node) :
    (told hs selector n).filter (·.place == place) =
      if h.selector == selector then [⟨h, place, n⟩] else [] := by
  have hone : hs.zipIdx.filter (fun g => g.2 == place) = [(h, place)] := by
    simpa using filter_zipIdx (k := 0) hplace
  rw [told, List.filter_map, Function.comp_def, List.filter_comm, hone, List.filter_cons]
  split <;> rfl

/-- The nodes that a handler is told of, in the order of the events. -/
def nodesOf (place : Nat) (es : List Event) : List Node :=
  (es.filter (·.place == place)).map (·.node)

theorem nodesOf_events (hplace : hs[place]? = some h) (root : Node) :
    nodesOf place (events hs root) =
      (root.walk.filter fun step => h.selector == step.selector).map Step.node := by
  rw [nodesOf, events_eq_walk, List.filter_flatMap, List.map_flatMap]
  induction root.walk with
  | nil => rfl
  | cons step steps ih =>
      rw [List.flatMap_cons, ih, filter_told hplace, List.filter_cons]
      split <;> rfl

/-- A handler that is to be told of nodes that are entered is told of those of its kind. -/
theorem nodesOf_enter (hplace : hs[place]? = some h)
    (hselector : ∀ text, h.selector ≠ text ++ ":exit") (root : Node) :
    nodesOf place (events hs root) = root.nodes.filter (·.kind == h.selector) := by
  rw [nodesOf_events hplace, Node.nodes, List.filter_filterMap, ← List.filterMap_eq_map,
    List.filterMap_filter]
  refine List.filterMap_congr fun step _ => ?_
  cases step with
  | enter n =>
      have hcomm : (h.selector == n.kind) = (n.kind == h.selector) := BEq.comm
      simp [Step.selector, Step.node, Option.filter, hcomm]
  | leave n => simp [Step.selector, Option.filter, hselector]

theorem colon_mem_of_eq_append {kind text : String} (h : kind = text ++ ":exit") : ':' ∈ kind.toList := by
  simp [h]

theorem kind_ne_exit (unmarked : root.Unmarked) (hn : n ∈ root.nodes) (text : String) :
    n.kind ≠ text ++ ":exit" := by
  intro hkind
  cases n with
  | other site kind nodes => exact unmarked site kind nodes hn text hkind
  | identifier | literal | member | call =>
      have hcolon := colon_mem_of_eq_append hkind
      simp [Node.kind] at hcolon

/-- A handler that is to be told of nodes that are left is told of those of its kind. -/
theorem nodesOf_leave (unmarked : root.Unmarked) (hplace : hs[place]? = some h) {kind : String}
    (hselector : h.selector = kind ++ ":exit") :
    nodesOf place (events hs root) = root.exits.filter (·.kind == kind) := by
  rw [nodesOf_events hplace, hselector, Node.exits, List.filter_filterMap, ← List.filterMap_eq_map,
    List.filterMap_filter]
  refine List.filterMap_congr fun step hstep => ?_
  cases step with
  | enter n =>
      have hkind : n.kind ≠ kind ++ ":exit" :=
        kind_ne_exit unmarked (Node.node_mem_nodes hstep) kind
      simp [Step.selector, Option.filter, hkind.symm]
  | leave n =>
      have hcomm : (kind == n.kind) = (n.kind == kind) := BEq.comm
      simp [Step.selector, Step.node, Option.filter, ← hcomm]

/-! ## Parts of the tree -/

theorem exists_events_eq_append (hs : List Handler) (distinct : root.Distinct) (hn : n ∈ root.nodes) :
    ∃ before after, events hs root = before ++ events hs n ++ after ∧
      ∀ e ∈ before ++ after, e.node.id ∉ n.nodes.map Node.id := by
  obtain ⟨before, after, hwalk, hother⟩ := Node.exists_walk_eq_append distinct hn
  let along (steps : List Step) := steps.flatMap fun step => told hs step.selector step.node
  refine ⟨along before, along after, ?_, ?_⟩
  · rw [events_eq_walk, events_eq_walk, hwalk, List.flatMap_append, List.flatMap_append]
  · intro e he
    rw [← List.flatMap_append, List.mem_flatMap] at he
    obtain ⟨step, hstep, he⟩ := he
    obtain ⟨g, -, rfl⟩ := List.mem_map.mp he
    exact hother step hstep

/-- **A run follows the recursion.** Its result is that of firing the events of the recursion one after
the other. A handler is told once of every node of its kind, in the order in which these are entered or
left. The events at the nodes of a part of the tree come in a row, and the handlers of its root are told of
it before all others and after them. The walk that leads to the events is finite, takes the steps of the
recursion at every moment, and enters and leaves every node once. -/
theorem run_follows_events (v : Vocabulary) (options : OptionsTable) (rules : List (String × Rule))
    {root : Node} (distinct : root.Distinct) (unmarked : root.Unmarked) :
    (run v root rules options).result =
      ((events (handlers v (.ofRoot root) options rules) root).mapM Event.fire).map (fun found =>
        ⟨report found.flatten, found.flatten.filterMap Finding.visit?⟩) ∧
    (∀ (hs : List Handler) (place : Nat) (h : Handler), hs[place]? = some h →
      ((∀ text, h.selector ≠ text ++ ":exit") →
        nodesOf place (events hs root) = root.nodes.filter (·.kind == h.selector)) ∧
      ∀ kind, h.selector = kind ++ ":exit" →
        nodesOf place (events hs root) = root.exits.filter (·.kind == kind)) ∧
    (∀ (hs : List Handler), ∀ n ∈ root.nodes, ∃ before after,
      events hs root =
        before ++ (told hs n.kind n ++ n.children.flatMap (events hs) ++
          told hs (n.kind ++ ":exit") n) ++ after ∧
      ∀ e ∈ before ++ after, e.node.id ∉ n.nodes.map Node.id) ∧
    (∀ steps stack, Node.Turns [.enter root] steps stack →
      steps.length ≤ 2 * root.nodes.length ∧ steps ++ Node.pending stack = root.walk) ∧
    (∀ steps, Node.Turns [.enter root] steps [] ↔ steps = root.walk) ∧
    root.walk.Perm (root.nodes.map .enter ++ root.nodes.map .leave) ∧
    root.exits.Perm root.nodes := by
  refine ⟨run_eq_fire v root rules options, fun hs place h hplace => ⟨?_, ?_⟩, fun hs n hn => ?_,
    fun steps stack hturns => ⟨hturns.length_le, ?_⟩, fun steps => Node.turns_iff, Node.walk_perm root,
    Node.exits_perm root⟩
  · intro hselector
    exact nodesOf_enter hplace hselector root
  · intro kind hselector
    exact nodesOf_leave unmarked hplace hselector
  · rw [← events_eq]
    exact exists_events_eq_append hs distinct hn
  · have hpending := hturns.pending_eq
    simpa [Node.pending] using hpending.symm

/-- Two rules that note what they are told of, with one selector in common. -/
def tracingRules : List (String × Rule) :=
  [("early", .tracing ["CallExpression:exit", "CallExpression"]),
    ("late", .tracing ["CallExpression:exit", "Identifier"])]

theorem unmarked_chainProgram : chainProgram.Unmarked := by
  intro site kind nodes hmem text hkind
  have hcolon := colon_mem_of_eq_append hkind
  rw [nodes_chainProgram] at hmem
  simp [chainProgram, outerLink, outerCallee, innerLink, innerCallee] at hmem
  rcases hmem with ⟨-, rfl, -⟩ | ⟨-, rfl, -⟩ <;> simp at hcolon

def chainVisits : List Visit :=
  [⟨"early", "CallExpression", ⟨0, 18⟩⟩, ⟨"early", "CallExpression", ⟨1, 10⟩⟩,
    ⟨"late", "Identifier", ⟨1, 3⟩⟩, ⟨"late", "Identifier", ⟨4, 8⟩⟩,
    ⟨"early", "CallExpression:exit", ⟨1, 10⟩⟩, ⟨"late", "CallExpression:exit", ⟨1, 10⟩⟩,
    ⟨"late", "Identifier", ⟨12, 16⟩⟩, ⟨"early", "CallExpression:exit", ⟨0, 18⟩⟩,
    ⟨"late", "CallExpression:exit", ⟨0, 18⟩⟩]

theorem run_chainProgram :
    chainProgram.Distinct ∧ chainProgram.Unmarked ∧
      (run Settings.standard.vocabulary chainProgram tracingRules (fun _ => [])).result =
        .ok ⟨[], chainVisits⟩ := by
  refine ⟨distinct_chainProgram, unmarked_chainProgram, ?_⟩
  obtain ⟨hrun, -⟩ := run_follows_events Settings.standard.vocabulary (fun _ => []) tracingRules
    distinct_chainProgram unmarked_chainProgram
  have hhandlers : handlers Settings.standard.vocabulary (.ofRoot chainProgram) (fun _ => [])
      tracingRules =
        [⟨"CallExpression:exit", fun n => .ok [.visit ⟨"early", "CallExpression:exit", n.span⟩]⟩,
          ⟨"CallExpression", fun n => .ok [.visit ⟨"early", "CallExpression", n.span⟩]⟩,
          ⟨"CallExpression:exit", fun n => .ok [.visit ⟨"late", "CallExpression:exit", n.span⟩]⟩,
          ⟨"Identifier", fun n => .ok [.visit ⟨"late", "Identifier", n.span⟩]⟩] := rfl
  have hfired : (events (handlers Settings.standard.vocabulary (.ofRoot chainProgram) (fun _ => [])
      tracingRules) chainProgram).mapM Event.fire = .ok (chainVisits.map fun visit => [.visit visit]) := by
    rw [hhandlers]
    simp [events_eq, told, chainProgram, outerLink, outerCallee, innerLink, innerCallee, Node.children,
      Node.kind, Event.fire, Node.span, Node.site, chainVisits, pure, Except.pure]
  have hproblems : (chainVisits.map fun visit => [Finding.visit visit]).flatten.filterMap
      Finding.problem? = [] := rfl
  rw [hrun, hfired, Except.map, report, hproblems, List.mergeSort_nil]
  rfl

end Dispatch

end ChainLint
