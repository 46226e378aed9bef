import ChainLint.Proofs.Dispatch.ReportOrder

/-!
# Getters and setters share the reports

A rule on methods of collections can be told to leave getters or setters alone. The option is one of three
tests in front of the question to the classifier, and a call that the option does not allow is treated as
without it. So a run with the option reports what a run without it reports, less the calls that are
allowed (`reported_of_quiet`): sorting and leaving out can be done in either order.

A call has arguments or it has none. Hence the two runs that allow one use each share what the run without
the option reports, and since both keep the order of the whole, the whole is put together from them without
a change of order (`Interleaves`). The order of reports alone does not say how: the two links of
`$x.bind().bind(f)` start at one place, and one of them is a getter.
-/

namespace ChainLint

/-! ## Lists that are put together -/

/-- The third list has the elements of the others, each list in its own order. -/
inductive Interleaves {α : Type} : List α → List α → List α → Prop
  | nil : Interleaves [] [] []
  | left {x : α} {xs ys zs : List α} (h : Interleaves xs ys zs) : Interleaves (x :: xs) ys (x :: zs)
  | right {y : α} {xs ys zs : List α} (h : Interleaves xs ys zs) : Interleaves xs (y :: ys) (y :: zs)

theorem interleaves_filter {α : Type} (p : α → Bool) (l : List α) :
    Interleaves (l.filter p) (l.filter fun x => !p x) l := by
  induction l with
  | nil => exact .nil
  | cons x l ih =>
      cases hp : p x with
      | true =>
          rw [List.filter_cons_of_pos hp, List.filter_cons_of_neg (by simp [hp])]
          exact .left ih
      | false =>
          rw [List.filter_cons_of_neg (by simp [hp]), List.filter_cons_of_pos (by simp [hp])]
          exact .right ih

theorem Interleaves.mem_iff {α : Type} {xs ys zs : List α} (h : Interleaves xs ys zs) {x : α} :
    x ∈ zs ↔ x ∈ xs ∨ x ∈ ys := by
  induction h with
  | nil => simp
  | left h ih => rw [List.mem_cons, List.mem_cons, ih, or_assoc]
  | right h ih => rw [List.mem_cons, List.mem_cons, ih, or_left_comm]

/-! ## A rule that keeps quiet about some nodes -/

namespace Rule

/-- With the option a handler is quiet about the calls that are allowed. Elsewhere it does what the
handler of a context does that allows nothing and is the same in all other respects. -/
theorem collectionMethod_quiet (names : List String) (message : Option Message) (o : RuleOptions)
    {c c' : Context} (ruleId : c.ruleId = c'.ruleId) (vocabulary : c.vocabulary = c'.vocabulary)
    (parents : c.parents = c'.parents) (forbids : ∀ n, allows c n = false) :
    ∃ handle handle', (collectionMethod names message o).visitor c = onCall handle ∧
      (collectionMethod names message o).visitor c' = onCall handle' ∧
      ∀ n, handle' n = if allows c' n then .ok [] else handle n := by
  refine ⟨_, _, rfl, rfl, fun n => ?_⟩
  simp only [reportUse, Context.classify, forbids, ← ruleId, ← vocabulary, ← parents]
  cases calledMethod? names n with
  | none => simp
  | some called =>
      obtain ⟨callee, name⟩ := called
      simp only [Bool.false_eq_true, if_false]
      split_ifs <;> rfl

end Rule

namespace Dispatch

variable {v : Vocabulary} {p : Parents} {options options' : OptionsTable} {id : String} {rule : Rule}
  {root : Node}

/-- What the quiet handler finds at a node is what the other one finds, or nothing. -/
theorem found_quiet {quiet : Node → Bool} {h h' : Handler} {n : Node}
    (hquiet : h'.handle n = if quiet n then .ok [] else h.handle n)
    (hnode : ∀ d ∈ (found h n).filterMap Finding.problem?, d.node = n) :
    (found h' n).filterMap Finding.problem? =
      ((found h n).filterMap Finding.problem?).filter fun d => !quiet d.node := by
  cases hn : quiet n with
  | true =>
      have hnothing : found h' n = [] := by
        rw [found, hquiet, if_pos hn]
        rfl
      rw [hnothing, List.filterMap_nil]
      refine (List.filter_eq_nil_iff.mpr fun d hd => ?_).symm
      simp [hnode d hd, hn]
  | false =>
      have hsame : found h' n = found h n := by
        rw [found, found, hquiet, if_neg (by simp [hn])]
      rw [hsame]
      refine (List.filter_eq_self.mpr fun d hd => ?_).symm
      simp [hnode d hd, hn]

section

variable {quiet : Node → Bool} {selector : String} {handle handle' : Node → Except ChainError (List Finding)}
  (made : rule.Made) (hvisitor : rule.visitor (contextOf v p options id) = [⟨selector, handle⟩])
  (hvisitor' : rule.visitor (contextOf v p options' id) = [⟨selector, handle'⟩])
  (hquiet : ∀ n, handle' n = if quiet n then .ok [] else handle n)

include made hvisitor hvisitor' hquiet

theorem problems_of_quiet (steps : List Step) :
    problems v p options' [(id, rule)] steps =
      (problems v p options [(id, rule)] steps).filter fun d => !quiet d.node := by
  have hhandlers : handlers v p options [(id, rule)] = [⟨selector, handle⟩] := by
    rw [handlers_cons, hvisitor]
    rfl
  have hhandlers' : handlers v p options' [(id, rule)] = [⟨selector, handle'⟩] := by
    rw [handlers_cons, hvisitor']
    rfl
  have hstep : ∀ step, (foundAt [⟨selector, handle'⟩] step).filterMap Finding.problem? =
      ((foundAt [⟨selector, handle⟩] step).filterMap Finding.problem?).filter
        fun d => !quiet d.node := by
    intro step
    rw [foundAt_singleton, foundAt_singleton]
    split
    · refine found_quiet (hquiet step.node) fun d hd => ?_
      obtain ⟨fs, hfs, hd⟩ := mem_found_iff.mp (Finding.mem_filterMap_problem?.mp hd)
      exact (made.signs (hvisitor ▸ List.mem_singleton.mpr rfl) hfs hd).2
    · rfl
  rw [problems, problems, hhandlers, hhandlers', List.filterMap_flatMap, List.filterMap_flatMap,
    List.filter_flatMap]
  exact List.flatMap_congr fun step _ => hstep step

end

/-- What a run reports whose one rule is quiet about some nodes. -/
theorem reported_of_quiet {quiet : Node → Bool} {selector : String}
    {handle handle' : Node → Except ChainError (List Finding)} (made : rule.Made)
    (complete : root.Complete)
    (hvisitor : rule.visitor (contextOf v (.ofRoot root) options id) = [⟨selector, handle⟩])
    (hvisitor' : rule.visitor (contextOf v (.ofRoot root) options' id) = [⟨selector, handle'⟩])
    (hquiet : ∀ n, handle' n = if quiet n then .ok [] else handle n) {ds : List Diagnostic}
    (hds : reported v root [(id, rule)] options = .ok ds) :
    reported v root [(id, rule)] options' = .ok (ds.filter fun d => !quiet d.node) := by
  obtain ⟨es, hes⟩ := exists_reported v options' (List.forall_mem_singleton.mpr made :
    ∀ r ∈ [(id, rule)], r.2.Made) complete
  rw [hes, eq_sorted_of_reported hes, eq_sorted_of_reported hds,
    problems_of_quiet made hvisitor hvisitor' hquiet,
    filter_mergeSort Diagnostic.before_trans Diagnostic.before_total]

/-! ## The three runs -/

theorem reported_of_allows {names : List String} {message : Option Message} {o : RuleOptions}
    (options' : OptionsTable) (complete : root.Complete)
    (forbids : ∀ n, Rule.allows (contextOf v (.ofRoot root) options id) n = false)
    {ds : List Diagnostic}
    (hds : reported v root [(id, .collectionMethod names message o)] options = .ok ds) :
    reported v root [(id, .collectionMethod names message o)] options' =
      .ok (ds.filter fun d => !Rule.allows (contextOf v (.ofRoot root) options' id) d.node) := by
  have same : (contextOf v (.ofRoot root) options id).ruleId =
      (contextOf v (.ofRoot root) options' id).ruleId := rfl
  obtain ⟨handle, handle', hvisitor, hvisitor', hquiet⟩ :=
    Rule.collectionMethod_quiet names message o same rfl rfl forbids
  exact reported_of_quiet (.collectionMethod ..) complete hvisitor hvisitor' hquiet hds

/-- **Getters and setters share the reports.** Over a tree of complete calls there are three runs of a rule on
methods of collections: one whose options allow neither use, one that allows getters, and one that allows
setters. What the first reports is put together from what the others report, without a change of order.
The run that allows getters reports calls with arguments only, the run that allows setters calls without,
so that no call is reported by both. -/
theorem reported_uses (v : Vocabulary) (names : List String) {root : Node} (complete : root.Complete)
    (id : String) (message : Option Message) (o : RuleOptions) {plain gets sets : OptionsTable}
    (notGet : (contextOf v (.ofRoot root) plain id).option? Rule.allowKey ≠ some (.text "get"))
    (notSet : (contextOf v (.ofRoot root) plain id).option? Rule.allowKey ≠ some (.text "set"))
    (get : (contextOf v (.ofRoot root) gets id).option? Rule.allowKey = some (.text "get"))
    (set : (contextOf v (.ofRoot root) sets id).option? Rule.allowKey = some (.text "set")) :
    ∃ ds gs ss,
      reported v root [(id, .collectionMethod names message o)] plain = .ok ds ∧
      reported v root [(id, .collectionMethod names message o)] gets = .ok gs ∧
      reported v root [(id, .collectionMethod names message o)] sets = .ok ss ∧
      (∀ n, n ∈ ds.map (·.node) ↔ n ∈ gs.map (·.node) ∨ n ∈ ss.map (·.node)) ∧
      List.Disjoint (gs.map (·.node)) (ss.map (·.node)) ∧
      (∀ d ∈ gs, d.node.arguments ≠ []) ∧ (∀ d ∈ ss, d.node.arguments = []) ∧
      Interleaves gs ss ds ∧ ds.Pairwise (Diagnostic.before · ·) := by
  have made : ∀ r ∈ [(id, Rule.collectionMethod names message o)], r.2.Made :=
    List.forall_mem_singleton.mpr (.collectionMethod ..)
  have forbids : ∀ n, Rule.allows (contextOf v (.ofRoot root) plain id) n = false :=
    fun n => Rule.allows_of_ne notGet notSet
  obtain ⟨ds, hds⟩ := exists_reported v plain made complete
  have hgs := reported_of_allows gets complete forbids hds
  have hss := reported_of_allows sets complete forbids hds
  simp only [Rule.allows, get] at hgs
  simp only [Rule.allows, set, Bool.not_not] at hss
  have hinterleaves : Interleaves (ds.filter fun d => !d.node.arguments.isEmpty)
      (ds.filter fun d => d.node.arguments.isEmpty) ds := by
    simpa using interleaves_filter (fun d : Diagnostic => !d.node.arguments.isEmpty) ds
  have hgets : ∀ d ∈ ds.filter fun d => !d.node.arguments.isEmpty, d.node.arguments ≠ [] := by
    intro d hd
    simpa using List.of_mem_filter hd
  have hsets : ∀ d ∈ ds.filter fun d => d.node.arguments.isEmpty, d.node.arguments = [] := by
    intro d hd
    simpa using List.of_mem_filter hd
  refine ⟨ds, _, _, hds, hgs, hss, fun n => ?_, ?_, hgets, hsets, hinterleaves, pairwise_before hds⟩
  · rw [← List.mem_append, ← List.map_append, List.mem_map, List.mem_map]
    simp only [List.mem_append, hinterleaves.mem_iff]
  · intro n hn hn'
    obtain ⟨d, hd, rfl⟩ := List.mem_map.mp hn
    obtain ⟨e, he, hnode⟩ := List.mem_map.mp hn'
    exact hgets d hd (hnode ▸ hsets e he)

/-- The call `$x.bind()`. -/
def emptyBind : Node :=
  .call (.ofId 2)
    (some (.member (.ofId 3) (.identifier (.ofId 4) "$x") (.identifier (.ofId 5) "bind") false)) []

/-- The call `$x.bind().bind(f)`. -/
def filledBind : Node :=
  .call (.ofId 0) (some (.member (.ofId 1) emptyBind (.identifier (.ofId 6) "bind") false))
    [.identifier (.ofId 7) "f"]

/-- Options tables that hold one value for the uses of a method. -/
def allowing (value : String) : OptionsTable := fun _ => [.table [(.text Rule.allowKey, .text value)]]

theorem nodes_filledBind :
    filledBind.nodes =
      [filledBind, .member (.ofId 1) emptyBind (.identifier (.ofId 6) "bind") false, emptyBind,
        .member (.ofId 3) (.identifier (.ofId 4) "$x") (.identifier (.ofId 5) "bind") false,
        .identifier (.ofId 4) "$x", .identifier (.ofId 5) "bind", .identifier (.ofId 6) "bind",
        .identifier (.ofId 7) "f"] := by
  simp [filledBind, emptyBind, Node.nodes_eq, Node.children]

theorem complete_filledBind : filledBind.Complete := by
  intro site arguments
  rw [nodes_filledBind]
  simp [filledBind, emptyBind]

/-- A link of the chain is reported if the option does not allow it. -/
theorem mem_nodes_reported_filledBind {value : String} {call callee : Node}
    (hcall : call ∈ filledBind.nodes)
    (hcalled : Rule.calledMethod? ["bind"] call = some (callee, "bind"))
    (hconstructor : callee.object?.any Settings.standard.vocabulary.isConstructor = false)
    (hallows : Rule.allows (contextOf Settings.standard.vocabulary (.ofRoot filledBind) (allowing value)
      "binds") call = false)
    (hchain : Settings.standard.vocabulary.chain callee true = true) {ds : List Diagnostic}
    (hds : reported Settings.standard.vocabulary filledBind
      [("binds", .collectionMethod ["bind"] none {})] (allowing value) = .ok ds) :
    call ∈ ds.map (·.node) := by
  have distinct : filledBind.Distinct := by
    rw [Node.Distinct, nodes_filledBind]
    decide
  exact mem_nodes_of_chain (List.forall_mem_singleton.mpr (.collectionMethod ..)) distinct
    complete_filledBind (List.mem_singleton.mpr rfl) hcall hcalled hconstructor hallows hchain hds

theorem reported_uses_filledBind :
    filledBind.Complete ∧ ∃ ds gs ss,
      reported Settings.standard.vocabulary filledBind
        [("binds", .collectionMethod ["bind"] none {})] (allowing "none") = .ok ds ∧
      reported Settings.standard.vocabulary filledBind
        [("binds", .collectionMethod ["bind"] none {})] (allowing "get") = .ok gs ∧
      reported Settings.standard.vocabulary filledBind
        [("binds", .collectionMethod ["bind"] none {})] (allowing "set") = .ok ss ∧
      filledBind ∈ gs.map (·.node) ∧ emptyBind ∈ ss.map (·.node) ∧ Interleaves gs ss ds := by
  have option : ∀ value, (contextOf Settings.standard.vocabulary (.ofRoot filledBind) (allowing value)
      "binds").option? Rule.allowKey = some (.text value) := fun _ => rfl
  have other : ∀ value, value ≠ "none" → (contextOf Settings.standard.vocabulary (.ofRoot filledBind)
      (allowing "none") "binds").option? Rule.allowKey ≠ some (.text value) := by
    intro value hvalue h
    exact hvalue (by simpa [option] using h.symm)
  obtain ⟨ds, gs, ss, hds, hgs, hss, -, -, -, -, hinterleaves, -⟩ :=
    reported_uses Settings.standard.vocabulary ["bind"] complete_filledBind "binds" none {}
      (other "get" (by decide)) (other "set" (by decide)) (option "get") (option "set")
  refine ⟨complete_filledBind, ds, gs, ss, hds, hgs, hss, ?_, ?_, hinterleaves⟩
  · exact mem_nodes_reported_filledBind (by simp [nodes_filledBind]) rfl (by decide +kernel) rfl
      (by decide +kernel) hgs
  · exact mem_nodes_reported_filledBind (by simp [nodes_filledBind]) rfl (by decide +kernel) rfl
      (by decide +kernel) hss

end Dispatch

end ChainLint
