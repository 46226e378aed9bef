import ChainLint.Proofs.Dispatch.ReportOrder

/-!
# Collections and utilities share the calls of a method

A method may be there for collections and, under the same name, as a utility of the constructor. A rule
that forbids both asks one question of the callee. The rules that forbid one of the two ask different
questions, of the callee and of its object, and the rule on collections leaves calls on the constructor
alone besides. What they report are the two parts of what the rule on both reports
(`reported_either_partition`). This rests on the peeling of chains: a callee is called, so that peeling it
leads to its object, and there the name of the constructor counts as a collection.

A handler that finds at most one thing at each node reports the nodes at which it finds one, in the order
in which the calls start (`map_node_reported`).
-/

namespace ChainLint

namespace Vocabulary

variable (v : Vocabulary) (p : Parents)

/-! ## The three origins -/

/-- The constructor counts as a collection, called or not. -/
theorem peel_of_isConstructor {n : Node} (h : v.isConstructor n = true) : v.peel p n = .ok true := by
  obtain ⟨place, name, rfl, halias⟩ := (v.isConstructor_iff n).mp h
  simp only [peel, halias, Bool.or_true, ite_self]

theorem classify_either_eq (n : Option Node) :
    v.classify p .either n = v.classify p .collection n := by
  simp only [classify]
  split_ifs with h
  · cases n with
    | none => cases h
    | some m => exact (v.peel_of_isConstructor p h).symm
  · rfl

theorem classify_either_of_utility {n : Option Node} (h : v.classify p .utility n = .ok true) :
    v.classify p .either n = .ok true := by
  simp only [classify] at h ⊢
  rw [if_pos (Except.ok.inj h)]

variable {p} in
/-- A method of the constructor is a collection to the classifier. -/
theorem classify_of_constructor_object {root : Node} (distinct : root.Distinct) {site : Site}
    {callee : Node} {arguments : List Node}
    (hn : .call site (some callee) arguments ∈ root.nodes)
    (hconstructor : callee.object?.any v.isConstructor = true) :
    v.classify (.ofRoot root) .collection (some callee) = .ok true := by
  cases callee with
  | member place object property computed =>
      rw [classify, peelOption, peel_member, if_pos (Parents.isCallee_callee distinct hn)]
      exact v.peel_of_isConstructor _ hconstructor
  | identifier | literal | call | other => cases hconstructor

end Vocabulary

/-! ## The order of reports of one rule -/

/-- The order in which the nodes of one rule are reported. -/
def Node.startsFirst (m n : Node) : Bool := decide (m.span.start ≤ n.span.start)

theorem Node.startsFirst_trans (l m n : Node) (h : startsFirst l m) (h' : startsFirst m n) :
    startsFirst l n := by
  simp only [startsFirst, decide_eq_true_eq] at *
  omega

theorem Node.startsFirst_total (m n : Node) : startsFirst m n || startsFirst n m := by
  simp only [startsFirst, Bool.or_eq_true, decide_eq_true_eq]
  omega

theorem Diagnostic.before_eq_startsFirst {d e : Diagnostic} (h : d.ruleId = e.ruleId) :
    before d e = d.node.startsFirst e.node := by
  rw [Bool.eq_iff_iff, before_iff, Node.startsFirst, decide_eq_true_iff, h]
  constructor
  · rintro (h | ⟨h, -⟩) <;> omega
  · intro h
    rcases Int.lt_or_eq_of_le h with h | h
    · exact Or.inl h
    · exact Or.inr ⟨h, String.le_refl _⟩

namespace Dispatch

variable {v : Vocabulary} {root : Node} {options : OptionsTable} {id : String} {rule : Rule}
  {names : List String}

/-! ## The nodes that one rule reports -/

theorem exists_problem_iff {p : Parents} {test : Node → Node → Prop}
    (hrule : rule.ReportsCalls (contextOf v p options id) names test) (n : Node) :
    (∃ d, d ∈ problemsAt v p options [(id, rule)] n) ↔ Rule.Selects names test n := by
  obtain ⟨handle, hvisitor, hfinds⟩ := hrule
  have hhandlers : handlers v p options [(id, rule)] = [⟨"CallExpression:exit", handle⟩] := by
    rw [handlers_cons, hvisitor]
    rfl
  simp only [problemsAt, hhandlers, foundAt_singleton, Finding.mem_filterMap_problem?]
  constructor
  · rintro ⟨d, hd⟩
    split at hd
    · obtain ⟨fs, hfs, hd⟩ := mem_found_iff.mp hd
      exact (hfinds n).mp ⟨fs, d, hfs, hd⟩
    · cases hd
  · rintro ⟨callee, name, hcalled, htest⟩
    obtain ⟨fs, d, hfs, hd⟩ := (hfinds n).mpr ⟨callee, name, hcalled, htest⟩
    -- The handler is told of calls only, and this is one.
    obtain ⟨site, arguments, rfl⟩ :=
      Node.exists_of_memberCallee? (Rule.calledMethod?_eq_some hcalled).1
    have hselector : ("CallExpression:exit" ==
        (Step.leave (.call site (some callee) arguments)).selector) = true := beq_iff_eq.mpr rfl
    refine ⟨d, ?_⟩
    rw [if_pos hselector]
    exact mem_found_iff.mpr ⟨fs, hfs, hd⟩

open Classical in
theorem map_node_problemsAt {p : Parents} {test : Node → Node → Prop} (made : rule.Made)
    (hrule : rule.ReportsCalls (contextOf v p options id) names test) (n : Node) :
    (problemsAt v p options [(id, rule)] n).map (·.node) = [n].filter (Rule.Selects names test) := by
  have hexists := exists_problem_iff hrule n
  have hlength : (problemsAt v p options [(id, rule)] n).length ≤ 1 := length_problemsAt_le made n
  rw [List.filter_singleton]
  match hds : problemsAt v p options [(id, rule)] n with
  | [] =>
      have hselects : ¬ Rule.Selects names test n := by
        intro h
        obtain ⟨d, hd⟩ := hexists.mpr h
        rw [hds] at hd
        cases hd
      rw [decide_eq_false hselects]
      rfl
  | [d] =>
      have hmade : ∀ r ∈ [(id, rule)], r.2.Made := List.forall_mem_singleton.mpr made
      have hd : d ∈ problemsAt v p options [(id, rule)] n := hds ▸ List.mem_singleton.mpr rfl
      rw [decide_eq_true (hexists.mp ⟨d, hd⟩), List.map_singleton,
        (exists_of_mem_foundAt hmade hd).2.1]
      rfl
  | _ :: _ :: _ =>
      rw [hds] at hlength
      simp at hlength

open Classical in
/-- The nodes that a rule on methods reports, in the order of the reports. -/
theorem map_node_reported {test : Node → Node → Prop} (made : rule.Made)
    (hrule : rule.ReportsCalls (contextOf v (.ofRoot root) options id) names test)
    {ds : List Diagnostic} (h : reported v root [(id, rule)] options = .ok ds) :
    ds.map (·.node) = (root.exits.filter (Rule.Selects names test)).mergeSort Node.startsFirst := by
  have hmade : ∀ r ∈ [(id, rule)], r.2.Made := List.forall_mem_singleton.mpr made
  have hid : ∀ d ∈ problems v (.ofRoot root) options [(id, rule)] root.walk, d.ruleId = id := by
    intro d hd
    rw [problems_walk hmade] at hd
    obtain ⟨n, -, hd⟩ := List.mem_flatMap.mp hd
    exact List.mem_singleton.mp (exists_of_mem_foundAt hmade hd).1
  have hproblems : (problems v (.ofRoot root) options [(id, rule)] root.walk).map (·.node) =
      root.exits.filter (Rule.Selects names test) := by
    rw [problems_walk hmade, List.map_flatMap]
    induction root.exits with
    | nil => rfl
    | cons n ns ih =>
        rw [List.flatMap_cons, ih, map_node_problemsAt made hrule, ← List.filter_append,
          List.singleton_append]
  rw [eq_sorted_of_reported h, ← hproblems]
  refine List.map_mergeSort fun d hd e he => ?_
  exact Diagnostic.before_eq_startsFirst ((hid d hd).trans (hid e he).symm)

/-- What a rule on methods reports of a tree. -/
theorem mem_nodes_reported_iff {test : Node → Node → Prop} (made : rule.Made)
    (hrule : rule.ReportsCalls (contextOf v (.ofRoot root) options id) names test)
    {ds : List Diagnostic} (h : reported v root [(id, rule)] options = .ok ds) {n : Node} :
    n ∈ ds.map (·.node) ↔
      n ∈ root.nodes ∧ ∃ callee name, Rule.calledMethod? names n = some (callee, name) ∧ test n callee := by
  classical
  rw [map_node_reported made hrule h, List.mem_mergeSort, List.mem_filter, Node.mem_exits,
    decide_eq_true_iff, Rule.Selects]

theorem nodup_nodes_reported (made : rule.Made) (distinct : root.Distinct) {ds : List Diagnostic}
    (h : reported v root [(id, rule)] options = .ok ds) : (ds.map (·.node)).Nodup := by
  have hmade : ∀ r ∈ [(id, rule)], r.2.Made := List.forall_mem_singleton.mpr made
  have hid : ∀ d ∈ ds, d.ruleId = id := by
    intro d hd
    exact List.mem_singleton.mp (links_of_reported hmade h hd).1
  have hpairs := List.pairwise_map.mp
    (nodup_reported hmade h (List.nodup_singleton _) distinct)
  refine List.pairwise_map.mpr (hpairs.imp_of_mem fun {d e} hd he hne hnode => hne ?_)
  rw [hid d hd, hid e he, hnode]

/-! ## The partition -/

section

variable {onCollection onUtility onEither : String} {message message' message'' : Option Message}
  {o o' o'' : RuleOptions} {cs us es : List Diagnostic}
  (hcs : reported v root [(onCollection, .collectionMethod names message o)] options = .ok cs)
  (hus : reported v root [(onUtility, .utilityMethod names message' o')] options = .ok us)
  (hes : reported v root [(onEither, .collectionOrUtilityMethod names message'' o'')] options = .ok es)

include hcs hus

theorem disjoint_receivers : List.Disjoint (cs.map (·.node)) (us.map (·.node)) := by
  intro n hn hn'
  obtain ⟨-, callee, name, hcalled, hobject, -⟩ :=
    (mem_nodes_reported_iff (.collectionMethod ..) (Rule.reportsCalls_collectionMethod _) hcs).mp hn
  obtain ⟨-, callee', name', hcalled', hobject'⟩ :=
    (mem_nodes_reported_iff (.utilityMethod ..) (Rule.reportsCalls_utilityMethod _) hus).mp hn'
  obtain ⟨rfl, rfl⟩ := Prod.mk.inj (Option.some.inj (hcalled.symm.trans hcalled'))
  exact Bool.false_ne_true (hobject.symm.trans hobject')

include hes

/-- Whether the receiver is the constructor says which of the two rules reports the call. -/
theorem mem_nodes_either_iff (distinct : root.Distinct) (plain : options onCollection = []) {n : Node} :
    n ∈ es.map (·.node) ↔ n ∈ cs.map (·.node) ∨ n ∈ us.map (·.node) := by
  have hallows : Rule.allows (contextOf v (.ofRoot root) options onCollection) n = false :=
    Rule.allows_of_plain plain n
  rw [mem_nodes_reported_iff (.collectionMethod ..) (Rule.reportsCalls_collectionMethod _) hcs,
    mem_nodes_reported_iff (.utilityMethod ..) (Rule.reportsCalls_utilityMethod _) hus,
    mem_nodes_reported_iff (.collectionOrUtilityMethod ..)
      (Rule.reportsCalls_collectionOrUtilityMethod _) hes]
  simp only [Context.classify, Vocabulary.classify_either_eq]
  constructor
  · rintro ⟨hn, callee, name, hcalled, hclass⟩
    cases hobject : callee.object?.any v.isConstructor with
    | true => exact .inr ⟨hn, callee, name, hcalled, hobject⟩
    | false => exact .inl ⟨hn, callee, name, hcalled, hobject, hallows, hclass⟩
  · rintro (⟨hn, callee, name, hcalled, -, -, hclass⟩ | ⟨hn, callee, name, hcalled, hobject⟩)
    · exact ⟨hn, callee, name, hcalled, hclass⟩
    · obtain ⟨site, arguments, rfl⟩ :=
        Node.exists_of_memberCallee? (Rule.calledMethod?_eq_some hcalled).1
      exact ⟨hn, callee, name, hcalled, v.classify_of_constructor_object distinct hn hobject⟩

theorem perm_receivers (distinct : root.Distinct) (plain : options onCollection = []) :
    (es.map (·.node)).Perm (cs.map (·.node) ++ us.map (·.node)) := by
  have hc := nodup_nodes_reported (.collectionMethod ..) distinct hcs
  have hu := nodup_nodes_reported (.utilityMethod ..) distinct hus
  have he := nodup_nodes_reported (.collectionOrUtilityMethod ..) distinct hes
  refine (List.perm_ext_iff_of_nodup he ?_).mpr fun n => ?_
  · exact List.nodup_append'.mpr ⟨hc, hu, disjoint_receivers hcs hus⟩
  · rw [mem_nodes_either_iff hcs hus hes distinct plain, List.mem_append]

end

/-- **Collection and utility rules share what the rule on both reports.** Over a tree of complete calls the
rule on both kinds of receiver reports a call just if one of the others does, the rule on collections
without options; no call is reported twice, and none by both of the others. Whatever is a utility is
either of the two, and either of the two is a collection to the classifier. -/
theorem reported_either_partition (v : Vocabulary) (names : List String) {root : Node}
    (distinct : root.Distinct) (complete : root.Complete) (options : OptionsTable)
    {onCollection onUtility onEither : String} (plain : options onCollection = [])
    (message message' message'' : Option Message) (o o' o'' : RuleOptions) :
    (∃ cs us es,
      reported v root [(onCollection, .collectionMethod names message o)] options = .ok cs ∧
      reported v root [(onUtility, .utilityMethod names message' o')] options = .ok us ∧
      reported v root [(onEither, .collectionOrUtilityMethod names message'' o'')] options = .ok es ∧
      (∀ n, n ∈ es.map (·.node) ↔ n ∈ cs.map (·.node) ∨ n ∈ us.map (·.node)) ∧
      List.Disjoint (cs.map (·.node)) (us.map (·.node)) ∧
      (es.map (·.node)).Perm (cs.map (·.node) ++ us.map (·.node)) ∧ (es.map (·.node)).Nodup) ∧
    ∀ p n, v.classify p .either n = v.classify p .collection n ∧
      (v.classify p .utility n = .ok true → v.classify p .either n = .ok true) := by
  have answer : ∀ id rule, Rule.Made rule → ∃ ds, reported v root [(id, rule)] options = .ok ds := by
    intro id rule made
    exact exists_reported v options (List.forall_mem_singleton.mpr made) complete
  obtain ⟨cs, hcs⟩ := answer onCollection _ (.collectionMethod names message o)
  obtain ⟨us, hus⟩ := answer onUtility _ (.utilityMethod names message' o')
  obtain ⟨es, hes⟩ := answer onEither _ (.collectionOrUtilityMethod names message'' o'')
  refine ⟨⟨cs, us, es, hcs, hus, hes, ?_, ?_, ?_, ?_⟩, fun p n => ⟨?_, ?_⟩⟩
  · exact fun n => mem_nodes_either_iff hcs hus hes distinct plain
  · exact disjoint_receivers hcs hus
  · exact perm_receivers hcs hus hes distinct plain
  · exact nodup_nodes_reported (.collectionOrUtilityMethod ..) distinct hes
  · exact v.classify_either_eq p n
  · exact v.classify_either_of_utility p

/-- The call `$x.data()`. -/
def dataRead : Node :=
  .call (.ofId 4)
    (some (.member (.ofId 5) (.identifier (.ofId 6) "$x") (.identifier (.ofId 7) "data") false)) []

/-- The call `$.data($x.data())`: a utility with a method of a collection inside. -/
def dataOfData : Node :=
  .call (.ofId 0)
    (some (.member (.ofId 1) (.identifier (.ofId 2) "$") (.identifier (.ofId 3) "data") false))
    [dataRead]

theorem reported_dataOfData :
    dataOfData.Distinct ∧ dataOfData.Complete ∧
      ∃ cs us es,
        reported Settings.standard.vocabulary dataOfData
          [("collections", .collectionMethod ["data"] none {})] (fun _ => []) = .ok cs ∧
        reported Settings.standard.vocabulary dataOfData
          [("utilities", .utilityMethod ["data"] none {})] (fun _ => []) = .ok us ∧
        reported Settings.standard.vocabulary dataOfData
          [("both", .collectionOrUtilityMethod ["data"] none {})] (fun _ => []) = .ok es ∧
        dataRead ∈ cs.map (·.node) ∧ dataOfData ∈ us.map (·.node) ∧
        (es.map (·.node)).Perm (cs.map (·.node) ++ us.map (·.node)) := by
  have distinct : dataOfData.Distinct := by
    simp [Node.Distinct, dataOfData, dataRead, Node.nodes_eq, Node.children, Node.id, Node.site,
      Site.ofId]
  have complete : dataOfData.Complete := by
    intro site arguments
    simp [dataOfData, dataRead, Node.nodes_eq, Node.children]
  have hread : dataRead ∈ dataOfData.nodes :=
    Node.child_mem_nodes (Node.self_mem_nodes _) (by simp [dataOfData, Node.children])
  obtain ⟨⟨cs, us, es, hcs, hus, hes, -, -, hperm, -⟩, -⟩ :=
    reported_either_partition Settings.standard.vocabulary ["data"] distinct complete (fun _ => [])
      rfl none none none {} {} {}
  refine ⟨distinct, complete, cs, us, es, hcs, hus, hes, ?_, ?_, hperm⟩
  · refine (mem_nodes_reported_iff (.collectionMethod ..) (Rule.reportsCalls_collectionMethod _)
      hcs).mpr ⟨hread, _, _, rfl, rfl, rfl, ?_⟩
    rw [Context.classify, Vocabulary.classify, Vocabulary.peelOption, contextOf,
      Vocabulary.peel_ofRoot _ distinct complete
        (Node.child_mem_nodes hread (List.mem_cons_self ..)),
      Parents.isCallee_callee distinct hread]
    decide +kernel
  · exact (mem_nodes_reported_iff (.utilityMethod ..) (Rule.reportsCalls_utilityMethod _)
      hus).mpr ⟨Node.self_mem_nodes _, _, _, rfl, rfl⟩

end Dispatch

end ChainLint
