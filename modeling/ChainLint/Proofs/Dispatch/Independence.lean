import ChainLint.Proofs.Dispatch.StableSort
import ChainLint.Proofs.Except
import ChainLint.Proofs.Rule.Reports

/-!
# Rules do not influence each other

All rules share one list of handlers, one walk and one list of findings, so what they find comes node by
node, mixed. Sorting undoes the mixture: the report of several rules is the sorted concatenation of the
reports of single rules, taken in any order (`reported_eq_sorted_singles`).

The argument has two halves. What a list of rules finds under one name is what the rules of that name
find alone (`problems_filter`), because a rule signs its diagnostics. And the order of reports ties
diagnostics of one rule only, so that a class of tied diagnostics comes from one rule.
-/

namespace ChainLint.Dispatch

/-! ## Findings without failures -/

/-- Every handler that is told of a step of the walk has an answer. -/
def Answers (hs : List Handler) (steps : List Step) : Prop :=
  ∀ step ∈ steps, ∀ h ∈ hs, h.selector = step.selector → ∃ fs, h.handle step.node = .ok fs

/-- What a handler finds at a node; nothing if it has no answer. -/
def found (h : Handler) (n : Node) : List Finding := (h.handle n).toOption.getD []

theorem handle_eq_ok_found {h : Handler} {n : Node} (answer : ∃ fs, h.handle n = .ok fs) :
    h.handle n = .ok (found h n) := by
  obtain ⟨fs, hfs⟩ := answer
  rw [found, hfs]
  rfl

theorem mem_found_iff {h : Handler} {n : Node} {f : Finding} :
    f ∈ found h n ↔ ∃ fs, h.handle n = .ok fs ∧ f ∈ fs := by
  rw [found]
  cases h.handle n <;> simp [Except.toOption]

/-- What the handlers find at a step. -/
def foundAt (hs : List Handler) (step : Step) : List Finding :=
  (hs.filter (·.selector == step.selector)).flatMap (found · step.node)

theorem foundAt_singleton (h : Handler) (step : Step) :
    foundAt [h] step = if h.selector == step.selector then found h step.node else [] := by
  rw [foundAt, List.filter_singleton]
  cases h.selector == step.selector <;> simp

theorem onWalk_of_answers {hs : List Handler} {steps : List Step} (h : Answers hs steps) :
    onWalk hs steps = .ok (steps.flatMap (foundAt hs)) := by
  have hstep : ∀ step ∈ steps, atStep hs step = .ok (foundAt hs step) := by
    intro step hstep
    have hselected : ∀ h' ∈ hs.filter (·.selector == step.selector),
        h'.handle step.node = .ok (found h' step.node) := by
      intro h' hh'
      obtain ⟨hmem, hsel⟩ := List.mem_filter.mp hh'
      exact handle_eq_ok_found (h step hstep h' hmem (beq_iff_eq.mp hsel))
    rw [atStep, mapM_eq_ok_map hselected, foundAt, List.flatMap_def]
    rfl
  rw [onWalk, mapM_eq_ok_map hstep, List.flatMap_def]
  rfl

/-- There is one reason to fail, so that it does not matter which handler fails first. -/
theorem onWalk_of_not_answers {hs : List Handler} {steps : List Step} (h : ¬ Answers hs steps) :
    onWalk hs steps = .error .exhausted := by
  have only : ∀ e : ChainError, e = .exhausted := fun e => by cases e; rfl
  obtain ⟨step, hstep, h', hh', hsel, hfail⟩ : ∃ step ∈ steps, ∃ h' ∈ hs,
      h'.selector = step.selector ∧ ¬ ∃ fs, h'.handle step.node = .ok fs := by
    simpa [Answers] using h
  have herror : h'.handle step.node = .error .exhausted := by
    match hx : h'.handle step.node with
    | .ok fs => exact absurd ⟨fs, hx⟩ hfail
    | .error e => rw [only e]
  have hat : atStep hs step = .error .exhausted := by
    have hmem : h' ∈ hs.filter (·.selector == step.selector) :=
      List.mem_filter.mpr ⟨hh', beq_iff_eq.mpr hsel⟩
    rw [atStep, mapM_eq_error (fun _ _ e _ => only e) hmem herror]
    rfl
  rw [onWalk, mapM_eq_error (fun _ _ e _ => only e) hstep hat]
  rfl

/-! ## The problems that rules find -/

section

variable (v : Vocabulary) (p : Parents) (options : OptionsTable)

/-- The diagnostics of rules on a walk, in the order in which they are found. -/
def problems (rules : List (String × Rule)) (steps : List Step) : List Diagnostic :=
  (steps.flatMap (foundAt (handlers v p options rules))).filterMap Finding.problem?

theorem handlers_cons (r : String × Rule) (rules : List (String × Rule)) :
    handlers v p options (r :: rules) =
      r.2.visitor (contextOf v p options r.1) ++ handlers v p options rules := by
  rw [handlers, List.flatMap_cons, handlers]

theorem mem_handlers {rules : List (String × Rule)} {h : Handler} :
    h ∈ handlers v p options rules ↔
      ∃ r ∈ rules, h ∈ r.2.visitor (contextOf v p options r.1) := by
  rw [handlers, List.mem_flatMap]

section

variable {w : Vocabulary} {p' : Parents} {options' : OptionsTable} {rules : List (String × Rule)}
  (made : ∀ r ∈ rules, r.2.Made)
  (alike : ∀ r ∈ rules, (contextOf v p options r.1).Alike (contextOf w p' options' r.1))

include made alike

/-- What the handlers of rules find at a step depends on two things only, as far as the contexts are
alike: whether the node is called, and how the classifier answers about the nodes of its tree. -/
theorem atStep_congr {step : Step} (hcallee : p.isCallee step.node = p'.isCallee step.node)
    (hclass : ∀ origin, ∀ m ∈ step.node.nodes,
      v.classify p origin (some m) = w.classify p' origin (some m)) :
    atStep (handlers v p options rules) step = atStep (handlers w p' options' rules) step := by
  suffices h : ((handlers v p options rules).filter (·.selector == step.selector)).mapM
      (·.handle step.node) =
        ((handlers w p' options' rules).filter (·.selector == step.selector)).mapM
          (·.handle step.node) by
    rw [atStep, atStep, h]
  induction rules with
  | nil => rfl
  | cons r rules ih =>
      have hrest := ih (fun r' hr' => made r' (List.mem_cons_of_mem _ hr')) fun r' hr' =>
        alike r' (List.mem_cons_of_mem _ hr')
      obtain ⟨selector, handle, handle', hvisitor, hvisitor', hboth⟩ :=
        (made r (List.mem_cons_self ..)).handle_both (alike r (List.mem_cons_self ..))
      have hhandle : handle step.node = handle' step.node :=
        (hboth step.node hcallee).eq_of_classify hclass
      rw [handlers_cons, handlers_cons, hvisitor, hvisitor', List.singleton_append,
        List.singleton_append, List.filter_cons, List.filter_cons]
      dsimp only
      split
      · simp only [List.mapM_cons, hhandle, hrest]
      · exact hrest

theorem onWalk_congr {steps : List Step}
    (h : ∀ step ∈ steps, p.isCallee step.node = p'.isCallee step.node ∧
      ∀ origin, ∀ m ∈ step.node.nodes,
        v.classify p origin (some m) = w.classify p' origin (some m)) :
    onWalk (handlers v p options rules) steps = onWalk (handlers w p' options' rules) steps := by
  have hstep : ∀ step ∈ steps,
      atStep (handlers v p options rules) step = atStep (handlers w p' options' rules) step :=
    fun step hstep => atStep_congr v p options made alike (h step hstep).1 (h step hstep).2
  rw [onWalk, onWalk, mapM_congr hstep]

end

theorem answers_handlers_iff {rules : List (String × Rule)} {steps : List Step} :
    Answers (handlers v p options rules) steps ↔
      ∀ r ∈ rules, Answers (handlers v p options [r]) steps := by
  constructor
  · intro h r hr step hstep h' hh'
    obtain ⟨r', hr', hvisitor⟩ := (mem_handlers ..).mp hh'
    obtain rfl := List.mem_singleton.mp hr'
    exact h step hstep h' ((mem_handlers ..).mpr ⟨r', hr, hvisitor⟩)
  · intro h step hstep h' hh'
    obtain ⟨r, hr, hvisitor⟩ := (mem_handlers ..).mp hh'
    exact h r hr step hstep h' ((mem_handlers ..).mpr ⟨r, List.mem_singleton.mpr rfl, hvisitor⟩)

variable {p options}

/-- A rule signs what it finds. -/
theorem ruleId_of_found {r : String × Rule} (made : r.2.Made) {h : Handler}
    (hh : h ∈ r.2.visitor (contextOf v p options r.1)) {n : Node} {d : Diagnostic}
    (hd : d ∈ (found h n).filterMap Finding.problem?) : d.ruleId = r.1 := by
  obtain ⟨fs, hfs, hd⟩ := mem_found_iff.mp (Finding.mem_filterMap_problem?.mp hd)
  exact (made.signs hh hfs hd).1

/-- At a step, what is found under a name is found by the rules of this name. -/
theorem filter_foundAt {rules : List (String × Rule)} (made : ∀ r ∈ rules, r.2.Made) (x : String)
    (step : Step) :
    ((foundAt (handlers v p options rules) step).filterMap Finding.problem?).filter (·.ruleId == x) =
      (foundAt (handlers v p options (rules.filter (·.1 == x))) step).filterMap Finding.problem? := by
  induction rules with
  | nil => rfl
  | cons r rules ih =>
      have hrest := ih fun r' hr' => made r' (List.mem_cons_of_mem _ hr')
      have hsigned : ∀ d ∈ (foundAt (r.2.visitor (contextOf v p options r.1)) step).filterMap
          Finding.problem?, d.ruleId = r.1 := by
        intro d hd
        rw [foundAt, List.filterMap_flatMap] at hd
        obtain ⟨h, hh, hd⟩ := List.mem_flatMap.mp hd
        exact ruleId_of_found v (made r (List.mem_cons_self ..)) (List.mem_of_mem_filter hh) hd
      have hsplit : ∀ hs : List Handler, foundAt (r.2.visitor (contextOf v p options r.1) ++ hs) step =
          foundAt (r.2.visitor (contextOf v p options r.1)) step ++ foundAt hs step := by
        intro hs
        rw [foundAt, List.filter_append, List.flatMap_append, foundAt, foundAt]
      rw [handlers_cons, hsplit, List.filterMap_append, List.filter_append, hrest]
      by_cases hr : r.1 = x
      · rw [List.filter_cons_of_pos (by simpa using hr), handlers_cons, hsplit,
          List.filterMap_append]
        congr 1
        exact List.filter_eq_self.mpr fun d hd => by simp [hsigned d hd, hr]
      · rw [List.filter_cons_of_neg (by simpa using hr)]
        have hnone : ((foundAt (r.2.visitor (contextOf v p options r.1)) step).filterMap
            Finding.problem?).filter (·.ruleId == x) = [] :=
          List.filter_eq_nil_iff.mpr fun d hd => by simp [hsigned d hd, hr]
        rw [hnone, List.nil_append]

/-- What is found under a name is found by the rules of this name, in the same order. -/
theorem problems_filter {rules : List (String × Rule)} (made : ∀ r ∈ rules, r.2.Made) (x : String)
    (steps : List Step) :
    (problems v p options rules steps).filter (·.ruleId == x) =
      problems v p options (rules.filter (·.1 == x)) steps := by
  rw [problems, List.filterMap_flatMap, List.filter_flatMap, problems, List.filterMap_flatMap]
  congr 1
  exact funext fun step => filter_foundAt v made x step

end

/-! ## Reports of several rules -/

section

variable {v : Vocabulary} {p : Parents} {options : OptionsTable}

/-- Among rules of distinct names at most one has a given name. -/
theorem filter_name {rules : List (String × Rule)} (distinct : (rules.map (·.1)).Nodup) (x : String) :
    rules.filter (·.1 == x) = [] ∨ ∃ r, rules.filter (·.1 == x) = [r] := by
  have hcount := List.nodup_iff_count_le_one.mp distinct x
  rw [List.count_eq_countP, List.countP_map, List.countP_eq_length_filter] at hcount
  change (rules.filter (·.1 == x)).length ≤ 1 at hcount
  match hf : rules.filter (·.1 == x) with
  | [] => exact Or.inl hf
  | [r] => exact Or.inr ⟨r, hf⟩
  | r :: r' :: rest =>
      rw [hf] at hcount
      simp only [List.length_cons] at hcount
      omega

theorem filter_tied_before (l : List Diagnostic) (a : Diagnostic) :
    l.filter (tied Diagnostic.before a) =
      (l.filter (·.ruleId == a.ruleId)).filter (tied Diagnostic.before a) := by
  rw [List.filter_filter]
  refine List.filter_congr fun d _ => ?_
  cases h : tied Diagnostic.before a d with
  | false => simp
  | true => simp [(Diagnostic.tied_before_iff.mp h).2]

theorem problems_nil (steps : List Step) : problems v p options [] steps = [] := by
  have hat : foundAt (handlers v p options []) = fun _ => [] := funext fun _ => rfl
  rw [problems, hat, List.flatMap_eq_nil_iff.mpr fun _ _ => rfl, List.filterMap_nil]

/-- The sorted diagnostics of rules, and those under one name among them. -/
theorem filter_sorted_problems {rules : List (String × Rule)} (made : ∀ r ∈ rules, r.2.Made)
    (x : String) (steps : List Step) :
    ((problems v p options rules steps).mergeSort Diagnostic.before).filter (·.ruleId == x) =
      (problems v p options (rules.filter (·.1 == x)) steps).mergeSort Diagnostic.before := by
  rw [filter_mergeSort Diagnostic.before_trans Diagnostic.before_total, problems_filter v made]

/-- **Sorting undoes the mixture**: a class of tied diagnostics belongs to one rule, and stands in the
order of the walk on both sides. -/
theorem sorted_problems_eq_sorted_singles {rules order : List (String × Rule)}
    (made : ∀ r ∈ rules, r.2.Made) (distinct : (rules.map (·.1)).Nodup) (perm : order.Perm rules)
    (steps : List Step) :
    (problems v p options rules steps).mergeSort Diagnostic.before =
      (order.flatMap fun r => (problems v p options [r] steps).mergeSort
        Diagnostic.before).mergeSort Diagnostic.before := by
  refine mergeSort_eq_of_filter_tied Diagnostic.before_trans Diagnostic.before_total fun a => ?_
  have hsingle : ∀ r ∈ order,
      ((problems v p options [r] steps).mergeSort Diagnostic.before).filter
          (·.ruleId == a.ruleId) =
        if r.1 == a.ruleId then (problems v p options [r] steps).mergeSort Diagnostic.before
        else [] := by
    intro r hr
    have hmade : ∀ r' ∈ [r], r'.2.Made :=
      List.forall_mem_singleton.mpr (made r (perm.mem_iff.mp hr))
    rw [filter_sorted_problems hmade, List.filter_singleton]
    cases r.1 == a.ruleId with
    | true => rfl
    | false => rw [cond_false, problems_nil, List.mergeSort_nil, if_neg Bool.false_ne_true]
  have hname : (order.flatMap fun r => (problems v p options [r] steps).mergeSort
        Diagnostic.before).filter (·.ruleId == a.ruleId) =
      (rules.filter (·.1 == a.ruleId)).flatMap fun r =>
        (problems v p options [r] steps).mergeSort Diagnostic.before := by
    have horder : order.filter (·.1 == a.ruleId) = rules.filter (·.1 == a.ruleId) := by
      have hperm := perm.filter (·.1 == a.ruleId)
      rcases filter_name distinct a.ruleId with h | ⟨r, h⟩
      · rw [h] at hperm ⊢
        exact hperm.eq_nil
      · rw [h] at hperm ⊢
        exact List.perm_singleton.mp hperm
    rw [List.filter_flatMap, List.flatMap_congr hsingle, ← horder]
    clear hsingle horder perm
    induction order with
    | nil => rfl
    | cons r order ih =>
        rw [List.flatMap_cons, List.filter_cons, ih]
        split <;> rfl
  rw [filter_tied_before, problems_filter v made, filter_tied_before (List.flatMap _ _), hname]
  rcases filter_name distinct a.ruleId with h | ⟨r, h⟩
  · rw [h, problems_nil, List.flatMap_nil]
  · rw [h, List.flatMap_singleton,
      filter_tied_mergeSort Diagnostic.before_trans Diagnostic.before_total]

end

/-! ## Runs -/

section

variable (v : Vocabulary) (root : Node) (rules : List (String × Rule)) (options : OptionsTable)

/-- The diagnostics that a run of rules over a tree returns. -/
def reported : Except ChainError (List Diagnostic) :=
  (run v root rules options).result.map (·.diagnostics)

theorem reported_eq :
    reported v root rules options =
      (onWalk (handlers v (.ofRoot root) options rules) root.walk).map report := by
  dsimp only [reported, run]
  generalize onWalk (handlers v (.ofRoot root) options rules) root.walk = outcome
  cases outcome <;> rfl

variable {v root rules options}

theorem reported_of_answers (h : Answers (handlers v (.ofRoot root) options rules) root.walk) :
    reported v root rules options =
      .ok ((problems v (.ofRoot root) options rules root.walk).mergeSort Diagnostic.before) := by
  rw [reported_eq, onWalk_of_answers h]
  rfl

theorem reported_of_not_answers
    (h : ¬ Answers (handlers v (.ofRoot root) options rules) root.walk) :
    reported v root rules options = .error .exhausted := by
  rw [reported_eq, onWalk_of_not_answers h]
  rfl

theorem answers_of_reported {ds : List Diagnostic} (h : reported v root rules options = .ok ds) :
    Answers (handlers v (.ofRoot root) options rules) root.walk := by
  by_contra hfail
  rw [reported_of_not_answers hfail] at h
  cases h

/-- What a run reports is what the handlers of its rules find at the steps that they are told of. -/
theorem mem_reported_iff {ds : List Diagnostic} (h : reported v root rules options = .ok ds)
    {d : Diagnostic} :
    d ∈ ds ↔ ∃ r ∈ rules, ∃ handler ∈ r.2.visitor (contextOf v (.ofRoot root) options r.1),
      ∃ step ∈ root.walk, handler.selector = step.selector ∧
        ∃ fs, handler.handle step.node = .ok fs ∧ .problem d ∈ fs := by
  have answers := answers_of_reported h
  rw [reported_of_answers answers] at h
  obtain rfl := Except.ok.inj h
  rw [List.mem_mergeSort, problems, Finding.mem_filterMap_problem?]
  constructor
  · intro hfinding
    obtain ⟨step, hstep, hfinding⟩ := List.mem_flatMap.mp hfinding
    obtain ⟨handler, hhandler, hfinding⟩ := List.mem_flatMap.mp hfinding
    obtain ⟨hmem, hselector⟩ := List.mem_filter.mp hhandler
    obtain ⟨r, hr, hvisitor⟩ := (mem_handlers ..).mp hmem
    have hselector := beq_iff_eq.mp hselector
    exact ⟨r, hr, handler, hvisitor, step, hstep, hselector, _,
      handle_eq_ok_found (answers step hstep handler hmem hselector), hfinding⟩
  · rintro ⟨r, hr, handler, hvisitor, step, hstep, hselector, fs, hfs, hd⟩
    have hmem := (mem_handlers v (.ofRoot root) options).mpr ⟨r, hr, hvisitor⟩
    refine List.mem_flatMap.mpr ⟨step, hstep, ?_⟩
    refine List.mem_flatMap.mpr ⟨handler, ?_, mem_found_iff.mpr ⟨fs, hfs, hd⟩⟩
    exact List.mem_filter.mpr ⟨hmem, beq_iff_eq.mpr hselector⟩

/-- What a run of the catalog reports under a name is found by the handler of the rule of this name. -/
theorem exists_finding_of_reported {id : String} {rule : Rule} (hrule : (id, rule) ∈ Catalog.rules)
    (catalog : ∀ r ∈ rules, r ∈ Catalog.rules) {ds : List Diagnostic}
    (hds : reported v root rules options = .ok ds) {d : Diagnostic} (hd : d ∈ ds) (hid : d.ruleId = id) :
    ∃ h ∈ rule.visitor (contextOf v (.ofRoot root) options id),
      d.node ∈ root.nodes ∧ ∃ fs, h.handle d.node = .ok fs ∧ .problem d ∈ fs := by
  obtain ⟨r, hr, h, hhandler, step, hstep, -, fs, hfs, hmem⟩ := (mem_reported_iff hds).mp hd
  obtain ⟨hname, hnode⟩ := (Catalog.rules_made r (catalog r hr)).signs hhandler hfs hmem
  obtain rfl : r = (id, rule) := Catalog.eq_of_name (catalog r hr) hrule (hname.symm.trans hid)
  rw [hnode]
  exact ⟨h, hhandler, Node.node_mem_nodes hstep, fs, hfs, hmem⟩

/-- Over a tree of complete calls every handler has an answer. -/
theorem answers_of_complete (made : ∀ r ∈ rules, r.2.Made) (complete : root.Complete) :
    Answers (handlers v (.ofRoot root) options rules) root.walk := by
  intro step hstep h hh _
  obtain ⟨r, hr, hh⟩ := (mem_handlers ..).mp hh
  exact (made r hr).answers hh (complete.of_mem (Node.node_mem_nodes hstep))

variable (v options) in
theorem exists_reported (made : ∀ r ∈ rules, r.2.Made) (complete : root.Complete) :
    ∃ ds, reported v root rules options = .ok ds :=
  ⟨_, reported_of_answers (answers_of_complete made complete)⟩

variable (v) in
/-- The callee of a call is classified as an access that is called. -/
theorem classify_callee (distinct : root.Distinct) (complete : root.Complete) {site : Site}
    {callee : Node} {arguments : List Node} (hn : .call site (some callee) arguments ∈ root.nodes)
    {answer : Bool} (hchain : v.chain callee true = answer) :
    v.classify (.ofRoot root) .collection (some callee) = .ok answer := by
  rw [Vocabulary.classify, Vocabulary.peelOption,
    Vocabulary.peel_ofRoot _ distinct complete (Node.child_mem_nodes hn (List.mem_cons_self ..)),
    Parents.isCallee_callee distinct hn, hchain]

variable (v options) in
/-- A call of a method on a collection is reported by every rule that names the method. -/
theorem exists_reported_call (made : ∀ r ∈ rules, r.2.Made) (distinct : root.Distinct)
    (complete : root.Complete) {id : String} {names : List String} {message : Option Message}
    {o : RuleOptions} (hr : (id, .collectionMethod names message o) ∈ rules) {call callee : Node}
    {text : String} (hn : call ∈ root.nodes)
    (hcalled : Rule.calledMethod? names call = some (callee, text))
    (hconstructor : callee.object?.any v.isConstructor = false)
    (hallows : Rule.allows (contextOf v (.ofRoot root) options id) call = false)
    (hchain : v.chain callee true = true) :
    ∃ ds d, reported v root rules options = .ok ds ∧ d ∈ ds ∧
      .problem d =
        Rule.reportUse (contextOf v (.ofRoot root) options id) call message text .collection o := by
  obtain ⟨ds, hds⟩ := exists_reported v options made complete
  obtain ⟨site, arguments, rfl⟩ :=
    Node.exists_of_memberCallee? (Rule.calledMethod?_eq_some hcalled).1
  have hclass := classify_callee v distinct complete hn hchain
  have hhandler : _ ∈ (Rule.collectionMethod names message o).visitor
      (contextOf v (.ofRoot root) options id) := List.mem_singleton.mpr rfl
  have hfinds := (Rule.collectionMethod_finds_iff hhandler).mpr
    ⟨callee, text, hcalled, hconstructor, hallows, hclass, rfl⟩
  have hmem := (mem_reported_iff hds).mpr
    ⟨_, hr, _, hhandler, _, Node.leave_mem_walk hn, rfl, hfinds⟩
  exact ⟨_, _, hds, hmem, rfl⟩

theorem mem_nodes_of_chain (made : ∀ r ∈ rules, r.2.Made) (distinct : root.Distinct)
    (complete : root.Complete) {id : String} {names : List String} {message : Option Message}
    {o : RuleOptions} (hr : (id, .collectionMethod names message o) ∈ rules) {call callee : Node}
    {text : String} (hn : call ∈ root.nodes)
    (hcalled : Rule.calledMethod? names call = some (callee, text))
    (hconstructor : callee.object?.any v.isConstructor = false)
    (hallows : Rule.allows (contextOf v (.ofRoot root) options id) call = false)
    (hchain : v.chain callee true = true) {ds : List Diagnostic}
    (hds : reported v root rules options = .ok ds) : call ∈ ds.map (·.node) := by
  obtain ⟨es, d, hes, hd, hreport⟩ := exists_reported_call v options made distinct complete hr hn hcalled
    hconstructor hallows hchain
  obtain rfl := Except.ok.inj (hds.symm.trans hes)
  obtain rfl := Finding.problem.inj hreport
  exact List.mem_map_of_mem hd

/-- A run is the sorted concatenation of the runs of its rules, in any order, or all of them fail. -/
theorem reported_eq_sorted_singles {order : List (String × Rule)} (made : ∀ r ∈ rules, r.2.Made)
    (distinct : (rules.map (·.1)).Nodup) (perm : order.Perm rules) :
    reported v root rules options =
      (order.mapM fun r => reported v root [r] options).map
        fun singles => singles.flatten.mergeSort Diagnostic.before := by
  by_cases hall : Answers (handlers v (.ofRoot root) options rules) root.walk
  · have hsingle : ∀ r ∈ order, reported v root [r] options =
        .ok ((problems v (.ofRoot root) options [r] root.walk).mergeSort Diagnostic.before) :=
      fun r hr =>
        reported_of_answers ((answers_handlers_iff ..).mp hall r (perm.mem_iff.mp hr))
    rw [reported_of_answers hall, mapM_eq_ok_map hsingle,
      sorted_problems_eq_sorted_singles made distinct perm, List.flatMap_def]
    rfl
  · obtain ⟨r, hr, hfail⟩ : ∃ r ∈ rules,
        ¬ Answers (handlers v (.ofRoot root) options [r]) root.walk := by
      rw [answers_handlers_iff] at hall
      simpa using hall
    have only : ∀ e : ChainError, e = .exhausted := fun e => by cases e; rfl
    rw [reported_of_not_answers hall,
      mapM_eq_error (fun _ _ e _ => only e) (perm.mem_iff.mpr hr) (reported_of_not_answers hfail)]
    rfl

/-- The part of a run that belongs to a name is the run of the rules of this name. -/
theorem filter_reported_name (made : ∀ r ∈ rules, r.2.Made) (x : String) {ds : List Diagnostic}
    (h : reported v root rules options = .ok ds) :
    reported v root (rules.filter (·.1 == x)) options = .ok (ds.filter (·.ruleId == x)) := by
  have hall := answers_of_reported h
  rw [reported_of_answers hall] at h
  obtain rfl := Except.ok.inj h
  have hnamed : Answers (handlers v (.ofRoot root) options (rules.filter (·.1 == x))) root.walk := by
    refine (answers_handlers_iff ..).mpr fun r hr => ?_
    exact (answers_handlers_iff ..).mp hall r (List.mem_of_mem_filter hr)
  rw [reported_of_answers hnamed, filter_sorted_problems made]

theorem filter_reported {r : String × Rule} (made : ∀ r ∈ rules, r.2.Made)
    (distinct : (rules.map (·.1)).Nodup) (hr : r ∈ rules) {ds : List Diagnostic}
    (h : reported v root rules options = .ok ds) :
    reported v root [r] options = .ok (ds.filter (·.ruleId == r.1)) := by
  have honly : rules.filter (·.1 == r.1) = [r] := by
    have hmem : r ∈ rules.filter (·.1 == r.1) := List.mem_filter.mpr ⟨hr, beq_self_eq_true r.1⟩
    rcases filter_name distinct r.1 with hf | ⟨r', hf⟩
    · rw [hf] at hmem
      cases hmem
    · rw [hf] at hmem ⊢
      rw [List.mem_singleton.mp hmem]
  rw [← honly, filter_reported_name made r.1 h]

/-- **Rules do not influence each other.** What a run reports is the stable sort of what its rules report
alone, put together in any order; the order in which rules are registered does not matter; the
diagnostics of a rule are the same beside any other rules; and over a tree of complete calls a run does
report. -/
theorem reported_independent (v : Vocabulary) (root : Node) (options : OptionsTable)
    {rules : List (String × Rule)} (made : ∀ r ∈ rules, r.2.Made)
    (distinct : (rules.map (·.1)).Nodup) :
    (∀ order : List (String × Rule), order.Perm rules →
      (reported v root rules options =
          (order.mapM fun r => reported v root [r] options).map
            fun singles => singles.flatten.mergeSort Diagnostic.before) ∧
        reported v root order options = reported v root rules options) ∧
      (∀ others : List (String × Rule), (∀ r ∈ others, r.2.Made) → (others.map (·.1)).Nodup →
        ∀ r ∈ rules, r ∈ others → ∀ ds es, reported v root rules options = .ok ds →
          reported v root others options = .ok es →
          ds.filter (·.ruleId == r.1) = es.filter (·.ruleId == r.1)) ∧
      (root.Complete → ∃ ds, reported v root rules options = .ok ds) := by
  refine ⟨fun order perm => ?_, fun others made' distinct' r hr hr' ds es hds hes => ?_,
    fun complete => ?_⟩
  · refine ⟨reported_eq_sorted_singles made distinct perm, ?_⟩
    have hmade : ∀ r ∈ order, r.2.Made := fun r hr => made r (perm.mem_iff.mp hr)
    have hdistinct : (order.map (·.1)).Nodup := (perm.map (·.1)).nodup_iff.mpr distinct
    rw [reported_eq_sorted_singles made distinct perm,
      reported_eq_sorted_singles hmade hdistinct (List.Perm.refl order)]
  · have hds := filter_reported made distinct hr hds
    have hes := filter_reported made' distinct' hr' hes
    rw [hds] at hes
    exact Except.ok.inj hes
  · exact exists_reported v options made complete

end

/-! ## A run of the catalog -/

/-- A walk whose steps find what is listed finds all of it. -/
theorem onWalk_of_steps {hs : List Handler} {steps : List Step} (found : List (List Finding))
    (h : List.Forall₂ (fun step fs => atStep hs step = .ok fs) steps found) :
    onWalk hs steps = .ok found.flatten := by
  rw [onWalk, mapM_eq_ok_iff.mpr h]
  rfl

/-- A step at which the selected handlers find what is listed finds all of it. -/
theorem atStep_of_handlers {hs : List Handler} {step : Step} (found : List (List Finding))
    (h : List.Forall₂ (fun handler fs => handler.handle step.node = .ok fs)
      (hs.filter (·.selector == step.selector)) found) : atStep hs step = .ok found.flatten := by
  rw [atStep, mapM_eq_ok_iff.mpr h]
  rfl

/-- The call `$x.bind($x.size())`, of which two rules of the catalog report a part. -/
def sizeInBind : Node :=
  .call (.ofId 0)
    (some (.member (.ofId 1) (.identifier (.ofId 2) "$x") (.identifier (.ofId 3) "bind") false))
    [.call (.ofId 4)
      (some (.member (.ofId 5) (.identifier (.ofId 6) "$x") (.identifier (.ofId 7) "size") false)) []]

def bindCallee : Node :=
  .member (.ofId 1) (.identifier (.ofId 2) "$x") (.identifier (.ofId 3) "bind") false

def sizeCallee : Node :=
  .member (.ofId 5) (.identifier (.ofId 6) "$x") (.identifier (.ofId 7) "size") false

def sizeCall : Node := .call (.ofId 4) (some sizeCallee) []

def bindDiagnostic : Diagnostic :=
  ⟨"no-bind", sizeInBind, "Prefer .on or EventTarget#addEventListener to .bind", none⟩

def sizeDiagnostic : Diagnostic :=
  ⟨"no-size", sizeCall, "Prefer .length to .size", some (Fix.size "no-size" sizeCall)⟩

theorem walk_sizeInBind :
    sizeInBind.walk =
      [.enter sizeInBind, .enter bindCallee, .enter (.identifier (.ofId 2) "$x"),
        .leave (.identifier (.ofId 2) "$x"), .enter (.identifier (.ofId 3) "bind"),
        .leave (.identifier (.ofId 3) "bind"), .leave bindCallee, .enter sizeCall, .enter sizeCallee,
        .enter (.identifier (.ofId 6) "$x"), .leave (.identifier (.ofId 6) "$x"),
        .enter (.identifier (.ofId 7) "size"), .leave (.identifier (.ofId 7) "size"),
        .leave sizeCallee, .leave sizeCall, .leave sizeInBind] := by
  simp [Node.walk, Node.walkFrom, sizeInBind, sizeCall, sizeCallee, bindCallee, Node.children]

theorem report_bind_size :
    report [.problem sizeDiagnostic, .problem bindDiagnostic] = [bindDiagnostic, sizeDiagnostic] := by
  have hbefore : sizeDiagnostic.before bindDiagnostic = false := by decide
  simp [report, Finding.problem?, List.mergeSort, List.MergeSort.Internal.splitInTwo, hbefore]

theorem complete_sizeInBind : sizeInBind.Complete := by
  intro site arguments
  simp [sizeInBind, Node.nodes_eq, Node.children]

theorem distinct_sizeInBind : sizeInBind.Distinct := by
  simp [Node.Distinct, sizeInBind, Node.nodes_eq, Node.children, Node.id, Node.site, Site.ofId]

section

variable {p : Parents} (options : OptionsTable)

/-- What the catalog finds when the call of `size` is left. -/
theorem atStep_sizeCall (plain : options "no-size" = [])
    (answer : Settings.standard.vocabulary.classify p .collection (some sizeCallee) = .ok true) :
    atStep (handlers Settings.standard.vocabulary p options Catalog.rules) (.leave sizeCall) =
      .ok [.problem sizeDiagnostic] := by
  have hother : Settings.standard.vocabulary.isConstructor (.identifier (.ofId 6) "$x") = false := by
    decide +kernel
  have hcalled : Rule.calledMethod? ["size"] sizeCall = some (sizeCallee, "size") := rfl
  have hfinds := Rule.collectionMethod_handle ["size"] (Catalog.fixed "Prefer `.length` to `.size`")
    (Catalog.repairing Fix.size) (c := contextOf Settings.standard.vocabulary p options "no-size")
    (List.mem_singleton.mpr rfl) hcalled hother (Rule.allows_of_plain plain _) answer
  refine atStep_of_handlers [[], [], [], [], [], [], [], [], [_], [], []] ?_
  exact .cons rfl (.cons rfl (.cons rfl (.cons rfl (.cons rfl (.cons rfl (.cons rfl (.cons rfl
    (.cons hfinds (.cons rfl (.cons rfl .nil))))))))))

/-- What the catalog finds when the call of `bind` is left. -/
theorem atStep_sizeInBind (plain : options "no-bind" = [])
    (answer : Settings.standard.vocabulary.classify p .collection (some bindCallee) = .ok true) :
    atStep (handlers Settings.standard.vocabulary p options Catalog.rules) (.leave sizeInBind) =
      .ok [.problem bindDiagnostic] := by
  have hother : Settings.standard.vocabulary.isConstructor (.identifier (.ofId 2) "$x") = false := by
    decide +kernel
  have hcalled : Rule.calledMethod? ["bind", "unbind"] sizeInBind = some (bindCallee, "bind") := rfl
  have hfinds := Rule.collectionMethod_handle ["bind", "unbind"] (Catalog.made Catalog.bindMessage) {}
    (c := contextOf Settings.standard.vocabulary p options "no-bind") (List.mem_singleton.mpr rfl)
    hcalled hother (Rule.allows_of_plain plain _) answer
  refine atStep_of_handlers [[], [], [], [], [], [_], [], [], [], [], []] ?_
  exact .cons rfl (.cons rfl (.cons rfl (.cons rfl (.cons rfl (.cons hfinds (.cons rfl (.cons rfl
    (.cons rfl (.cons rfl (.cons rfl .nil))))))))))

end

/-- The two rules report the calls of their methods, and no other rule anything. -/
theorem reported_sizeInBind :
    reported Settings.standard.vocabulary sizeInBind Catalog.rules (fun _ => []) =
      .ok [bindDiagnostic, sizeDiagnostic] := by
  have hmem : sizeCall ∈ sizeInBind.nodes := by
    simp [sizeInBind, sizeCall, sizeCallee, Node.nodes_eq, Node.children]
  have hbind : Settings.standard.vocabulary.classify (.ofRoot sizeInBind) .collection
      (some bindCallee) = .ok true :=
    classify_callee _ distinct_sizeInBind complete_sizeInBind (Node.self_mem_nodes _)
      (by decide +kernel)
  have hsize : Settings.standard.vocabulary.classify (.ofRoot sizeInBind) .collection
      (some sizeCallee) = .ok true :=
    classify_callee _ distinct_sizeInBind complete_sizeInBind hmem (by decide +kernel)
  have hwalk : onWalk (handlers Settings.standard.vocabulary (.ofRoot sizeInBind) (fun _ => [])
      Catalog.rules) sizeInBind.walk = .ok [.problem sizeDiagnostic, .problem bindDiagnostic] := by
    rw [walk_sizeInBind]
    refine onWalk_of_steps [[], [], [], [], [], [], [], [], [], [], [], [], [], [],
      [.problem sizeDiagnostic], [.problem bindDiagnostic]] ?_
    generalize Parents.ofRoot sizeInBind = p at hbind hsize
    refine .cons rfl (.cons rfl (.cons rfl (.cons rfl (.cons rfl (.cons rfl (.cons rfl (.cons rfl
      (.cons rfl (.cons rfl (.cons rfl (.cons rfl (.cons rfl (.cons rfl ?_)))))))))))))
    exact .cons (atStep_sizeCall _ rfl hsize) (.cons (atStep_sizeInBind _ rfl hbind) .nil)
  rw [reported_eq, hwalk]
  exact congrArg Except.ok report_bind_size

theorem reported_catalog_reverse :
    (∀ r ∈ Catalog.rules, r.2.Made) ∧ (Catalog.rules.map (·.1)).Nodup ∧ sizeInBind.Complete ∧
      reported Settings.standard.vocabulary sizeInBind Catalog.rules.reverse (fun _ => []) =
        reported Settings.standard.vocabulary sizeInBind Catalog.rules (fun _ => []) ∧
      reported Settings.standard.vocabulary sizeInBind Catalog.rules (fun _ => []) =
        .ok [bindDiagnostic, sizeDiagnostic] := by
  obtain ⟨horder, -, -⟩ := reported_independent Settings.standard.vocabulary sizeInBind
    (fun _ => []) Catalog.rules_made Catalog.rules_distinct
  exact ⟨Catalog.rules_made, Catalog.rules_distinct, complete_sizeInBind,
    (horder _ (List.reverse_perm _)).2, reported_sizeInBind⟩

end ChainLint.Dispatch
