import ChainLint.Proofs.Dispatch.Receivers

/-!
# A rule over several names

The rules of a family on methods look for calls of their names, and what they ask of such a call does not
depend on the names (`MethodFamily.exists_test`). So a rule selects the more calls the more names it has, and
the names of two lists select what either list selects (`selects_append_iff`). The reports of a rule are its
selection in a fixed order, with every call once, which is why the reports for fewer names are found among
those for more names, in the same order (`sublist_nodes_reported`).

For this reason a deprecated rule need not run beside the one that takes its place: the names of `no-unbind`
are among those of `no-bind` (`exists_bind_of_unbind`).
-/

namespace ChainLint

namespace Rule

/-- The families of rules that forbid methods by name. -/
inductive MethodFamily : (List String → Option Message → RuleOptions → Rule) → Prop
  | collection : MethodFamily collectionMethod
  | utility : MethodFamily utilityMethod
  | collectionOrUtility : MethodFamily collectionOrUtilityMethod

variable {make : List String → Option Message → RuleOptions → Rule} {test : Node → Node → Prop}
  {names others : List String} {n : Node}

theorem MethodFamily.made (family : MethodFamily make) (names : List String) (message : Option Message)
    (o : RuleOptions) : (make names message o).Made := by
  cases family with
  | collection => exact .collectionMethod names message o
  | utility => exact .utilityMethod names message o
  | collectionOrUtility => exact .collectionOrUtilityMethod names message o

/-- All rules of a family ask the same of a call of one of their names, whatever they are called and
however they are built. -/
theorem MethodFamily.exists_test (family : MethodFamily make) (v : Vocabulary) (p : Parents)
    (options : List Config.Value) :
    ∃ test, ∀ id names message o, (make names message o).ReportsCalls ⟨id, v, p, options⟩ names test := by
  cases family with
  | collection =>
      refine ⟨fun n callee => callee.object?.any v.isConstructor = false ∧
        allows ⟨"", v, p, options⟩ n = false ∧ v.classify p .collection (some callee) = .ok true, ?_⟩
      intro id names message o
      exact reportsCalls_collectionMethod ⟨id, v, p, options⟩
  | utility =>
      refine ⟨fun _ callee => callee.object?.any v.isConstructor = true, ?_⟩
      intro id names message o
      exact reportsCalls_utilityMethod ⟨id, v, p, options⟩
  | collectionOrUtility =>
      refine ⟨fun _ callee => v.classify p .either (some callee) = .ok true, ?_⟩
      intro id names message o
      exact reportsCalls_collectionOrUtilityMethod ⟨id, v, p, options⟩

/-! ## Selections -/

theorem Selects.mono (h : Selects names test n) (hsub : names ⊆ others) : Selects others test n := by
  obtain ⟨callee, name, hcalled, htest⟩ := h
  obtain ⟨hcallee, hname, hmem⟩ := calledMethod?_eq_some hcalled
  exact (selects_iff hcallee hname).mpr ⟨hsub hmem, htest⟩

theorem selects_append_iff :
    Selects (names ++ others) test n ↔ Selects names test n ∨ Selects others test n := by
  constructor
  · rintro ⟨callee, name, hcalled, htest⟩
    obtain ⟨hcallee, hname, hmem⟩ := calledMethod?_eq_some hcalled
    rw [selects_iff hcallee hname, selects_iff hcallee hname]
    rcases List.mem_append.mp hmem with hmem | hmem
    · exact Or.inl ⟨hmem, htest⟩
    · exact Or.inr ⟨hmem, htest⟩
  · rintro (h | h)
    · exact h.mono (List.subset_append_left ..)
    · exact h.mono (List.subset_append_right ..)

/-- What is selected is a call. -/
theorem Selects.selector_eq (h : Selects names test n) :
    "CallExpression:exit" = (Step.leave n).selector := by
  obtain ⟨callee, name, hcalled, -⟩ := h
  obtain ⟨site, arguments, rfl⟩ := Node.exists_of_memberCallee? (calledMethod?_eq_some hcalled).1
  rfl

end Rule

namespace Dispatch

variable {v : Vocabulary} {root : Node} {options : OptionsTable} {id id' : String} {rule rule' : Rule}
  {names others : List String} {test : Node → Node → Prop}

/-! ## Reports for more names -/

/-- With more names a rule reports more calls, and those for the fewer names in the same order. -/
theorem sublist_nodes_reported (made : rule.Made) (made' : rule'.Made)
    (hrule : rule.ReportsCalls (contextOf v (.ofRoot root) options id) names test)
    (hrule' : rule'.ReportsCalls (contextOf v (.ofRoot root) options id') others test)
    (hsub : names ⊆ others) {ds es : List Diagnostic}
    (hds : reported v root [(id, rule)] options = .ok ds)
    (hes : reported v root [(id', rule')] options = .ok es) :
    (ds.map (·.node)).Sublist (es.map (·.node)) := by
  classical
  have hselects : root.exits.filter (Rule.Selects names test) =
      (root.exits.filter (Rule.Selects others test)).filter (Rule.Selects names test) := by
    rw [List.filter_filter]
    refine List.filter_congr fun n _ => ?_
    rw [Bool.eq_iff_iff, Bool.and_eq_true, decide_eq_true_iff, decide_eq_true_iff]
    exact ⟨fun h => ⟨h, h.mono hsub⟩, And.left⟩
  rw [map_node_reported made hrule hds, map_node_reported made' hrule' hes, hselects,
    ← filter_mergeSort Node.startsFirst_trans Node.startsFirst_total]
  exact List.filter_sublist

/-- What a rule selects in a tree is reported by every run that the rule is part of. -/
theorem exists_reported_of_selects {rules : List (String × Rule)} (hr : (id, rule) ∈ rules)
    (made : rule.Made) (hrule : rule.ReportsCalls (contextOf v (.ofRoot root) options id) names test)
    {ds : List Diagnostic} (hds : reported v root rules options = .ok ds) {n : Node}
    (hn : n ∈ root.nodes) (hselects : Rule.Selects names test n) :
    ∃ d ∈ ds, d.ruleId = id ∧ d.node = n := by
  obtain ⟨handle, hvisitor, hfinds⟩ := hrule
  obtain ⟨fs, d, hfs, hd⟩ := (hfinds n).mpr hselects
  have hhandler : ⟨"CallExpression:exit", handle⟩ ∈ rule.visitor (contextOf v (.ofRoot root) options id) := by
    rw [hvisitor]
    exact List.mem_singleton.mpr rfl
  have hmem := (mem_reported_iff hds).mpr ⟨(id, rule), hr, _, hhandler, _, Node.leave_mem_walk hn,
    hselects.selector_eq, fs, hfs, hd⟩
  exact ⟨d, hmem, made.signs hhandler hfs hd⟩

/-- What a run of the catalog reports under the name of a rule is selected by the rule. -/
theorem selects_of_reported {rules : List (String × Rule)} (hcatalog : (id, rule) ∈ Catalog.rules)
    (catalog : ∀ r ∈ rules, r ∈ Catalog.rules)
    (hrule : rule.ReportsCalls (contextOf v (.ofRoot root) options id) names test)
    {ds : List Diagnostic} (hds : reported v root rules options = .ok ds) {d : Diagnostic} (hd : d ∈ ds)
    (hid : d.ruleId = id) : d.node ∈ root.nodes ∧ Rule.Selects names test d.node := by
  obtain ⟨h, hh, hn, fs, hfs, hmem⟩ := exists_finding_of_reported hcatalog catalog hds hd hid
  obtain ⟨handle, hvisitor, hfinds⟩ := hrule
  rw [hvisitor] at hh
  obtain rfl := List.mem_singleton.mp hh
  exact ⟨hn, (hfinds d.node).mp ⟨fs, d, hfs, hmem⟩⟩

/-! ## A deprecated rule and its replacement -/

/-- The rule on binding and unbinding handlers. -/
def bindRule : Rule := .collectionMethod ["bind", "unbind"] (Catalog.made Catalog.bindMessage) {}

/-- The rule on unbinding handlers, which the other one replaces. -/
def unbindRule : Rule :=
  .collectionMethod ["unbind"] (Catalog.fixed "Prefer `.off` to `.unbind`")
    { deprecation := .inFavourOf ["no-bind"] }

theorem bindRule_mem : ("no-bind", bindRule) ∈ Catalog.rules := by
  simp [Catalog.rules, bindRule]

theorem unbindRule_mem : ("no-unbind", unbindRule) ∈ Catalog.rules := by
  simp [Catalog.rules, unbindRule]

theorem exists_bind_of_unbind (same : options "no-unbind" = options "no-bind")
    {rules others : List (String × Rule)} (catalog : ∀ r ∈ rules, r ∈ Catalog.rules)
    (hr : ("no-bind", bindRule) ∈ others) {ds es : List Diagnostic}
    (hds : reported v root rules options = .ok ds) (hes : reported v root others options = .ok es)
    {d : Diagnostic} (hd : d ∈ ds) (hid : d.ruleId = "no-unbind") :
    ∃ e ∈ es, e.ruleId = "no-bind" ∧ e.node = d.node := by
  obtain ⟨test, htest⟩ :=
    Rule.MethodFamily.collection.exists_test v (.ofRoot root) (options "no-bind")
  have hunbind :
      unbindRule.ReportsCalls (contextOf v (.ofRoot root) options "no-unbind") ["unbind"] test := by
    rw [contextOf, same]
    exact htest ..
  have hbind : bindRule.ReportsCalls (contextOf v (.ofRoot root) options "no-bind") ["bind", "unbind"] test :=
    htest ..
  obtain ⟨hn, hselects⟩ := selects_of_reported unbindRule_mem catalog hunbind hds hd hid
  exact exists_reported_of_selects hr (.collectionMethod ..) hbind hes hn
    (hselects.mono (List.subset_cons_self ..))

/-- **A rule over several names reports what the rules over the names report.** Over a tree of complete
calls, and with the same options for all, a rule of a family over two lists of names reports a call if and
only if the rule of this family over one of the lists does. It reports both in the order in which they report
their calls, and in a tree of distinct nodes no call twice, even if both lists have its name. In particular,
what the deprecated rule `no-unbind` reports in a run of the catalog is reported by `no-bind`, in this run and
in every other that has `no-bind`. -/
theorem reported_names_append (v : Vocabulary) {root : Node} (complete : root.Complete)
    (options : OptionsTable) :
    (∀ make, Rule.MethodFamily make → ∀ (names others : List String) (onNames onOthers onAll : String),
      options onNames = options onAll → options onOthers = options onAll →
      ∀ (message message' message'' : Option Message) (o o' o'' : RuleOptions), ∃ as bs es,
        reported v root [(onNames, make names message o)] options = .ok as ∧
        reported v root [(onOthers, make others message' o')] options = .ok bs ∧
        reported v root [(onAll, make (names ++ others) message'' o'')] options = .ok es ∧
        (∀ n, n ∈ es.map (·.node) ↔ n ∈ as.map (·.node) ∨ n ∈ bs.map (·.node)) ∧
        (as.map (·.node)).Sublist (es.map (·.node)) ∧ (bs.map (·.node)).Sublist (es.map (·.node)) ∧
        (root.Distinct → (es.map (·.node)).Nodup)) ∧
    (options "no-unbind" = options "no-bind" →
      ∀ rules others : List (String × Rule), (∀ r ∈ rules, r ∈ Catalog.rules) →
        (∀ r ∈ others, r ∈ Catalog.rules) → "no-bind" ∈ others.map (·.1) → ∃ ds es,
          reported v root rules options = .ok ds ∧ reported v root others options = .ok es ∧
          ∀ d ∈ ds, d.ruleId = "no-unbind" → ∃ e ∈ es, e.ruleId = "no-bind" ∧ e.node = d.node) := by
  constructor
  · intro make family names others onNames onOthers onAll same same' message message' message'' o o' o''
    have answer : ∀ id names message o,
        ∃ ds, reported v root [(id, make names message o)] options = .ok ds := by
      intro id names message o
      exact exists_reported v options (List.forall_mem_singleton.mpr (family.made names message o)) complete
    obtain ⟨test, htest⟩ := family.exists_test v (.ofRoot root) (options onAll)
    have hrule : ∀ id, options id = options onAll → ∀ names message o,
        (make names message o).ReportsCalls (contextOf v (.ofRoot root) options id) names test := by
      intro id hid names message o
      rw [contextOf, hid]
      exact htest ..
    obtain ⟨as, has⟩ := answer onNames names message o
    obtain ⟨bs, hbs⟩ := answer onOthers others message' o'
    obtain ⟨es, hes⟩ := answer onAll (names ++ others) message'' o''
    have hnames := hrule onNames same names message o
    have hothers := hrule onOthers same' others message' o'
    have hall := hrule onAll rfl (names ++ others) message'' o''
    refine ⟨as, bs, es, has, hbs, hes, fun n => ?_, ?_, ?_, fun distinct => ?_⟩
    · calc n ∈ es.map (·.node)
        _ ↔ n ∈ root.nodes ∧ Rule.Selects (names ++ others) test n :=
            mem_nodes_reported_iff (family.made ..) hall hes
        _ ↔ (n ∈ root.nodes ∧ Rule.Selects names test n) ∨
              (n ∈ root.nodes ∧ Rule.Selects others test n) := by
            rw [Rule.selects_append_iff, and_or_left]
        _ ↔ n ∈ as.map (·.node) ∨ n ∈ bs.map (·.node) :=
            or_congr (mem_nodes_reported_iff (family.made ..) hnames has).symm
              (mem_nodes_reported_iff (family.made ..) hothers hbs).symm
    · exact sublist_nodes_reported (family.made ..) (family.made ..) hnames hall
        (List.subset_append_left ..) has hes
    · exact sublist_nodes_reported (family.made ..) (family.made ..) hothers hall
        (List.subset_append_right ..) hbs hes
    · exact nodup_nodes_reported (family.made ..) distinct hes
  · intro same rules others catalog catalog' hname
    obtain ⟨⟨id, rule⟩, hr, rfl⟩ := List.mem_map.mp hname
    obtain ⟨-, rfl⟩ := Prod.mk.inj (Catalog.eq_of_name (catalog' _ hr) bindRule_mem rfl)
    obtain ⟨ds, hds⟩ := exists_reported v options (fun r hr => Catalog.rules_made r (catalog r hr)) complete
    obtain ⟨es, hes⟩ := exists_reported v options (fun r hr => Catalog.rules_made r (catalog' r hr)) complete
    exact ⟨ds, es, hds, hes, fun d hd hid => exists_bind_of_unbind same catalog hr hds hes hd hid⟩

/-- The call `$x.bind()`. -/
def boundCall : Node :=
  .call (.ofId 2)
    (some (.member (.ofId 3) (.identifier (.ofId 4) "$x") (.identifier (.ofId 5) "bind") false)) []

/-- The call `$x.bind().unbind()`. -/
def unboundCall : Node :=
  .call (.ofId 0) (some (.member (.ofId 1) boundCall (.identifier (.ofId 6) "unbind") false)) []

theorem nodes_unboundCall :
    unboundCall.nodes =
      [unboundCall, .member (.ofId 1) boundCall (.identifier (.ofId 6) "unbind") false, boundCall,
        .member (.ofId 3) (.identifier (.ofId 4) "$x") (.identifier (.ofId 5) "bind") false,
        .identifier (.ofId 4) "$x", .identifier (.ofId 5) "bind", .identifier (.ofId 6) "unbind"] := by
  simp [unboundCall, boundCall, Node.nodes_eq, Node.children]

/-- Of the two lists of names both have `bind`, and the inner call is reported for either; the outer one is
reported by the deprecated rule of the catalog, and by its replacement. -/
theorem reported_names_append_unboundCall :
    unboundCall.Complete ∧
      (∃ as bs es,
        reported Settings.standard.vocabulary unboundCall
          [("binds", .collectionMethod ["bind"] none {})] (fun _ => []) = .ok as ∧
        reported Settings.standard.vocabulary unboundCall
          [("both", .collectionMethod ["unbind", "bind"] none {})] (fun _ => []) = .ok bs ∧
        reported Settings.standard.vocabulary unboundCall
          [("all", .collectionMethod ["bind", "unbind", "bind"] none {})] (fun _ => []) = .ok es ∧
        boundCall ∈ as.map (·.node) ∧ boundCall ∈ bs.map (·.node) ∧
        boundCall ∈ es.map (·.node) ∧ (es.map (·.node)).Nodup) ∧
      ∃ ds, reported Settings.standard.vocabulary unboundCall Catalog.rules (fun _ => []) = .ok ds ∧
        (∃ d ∈ ds, d.ruleId = "no-unbind" ∧ d.node = unboundCall) ∧
        ∃ e ∈ ds, e.ruleId = "no-bind" ∧ e.node = unboundCall := by
  have distinct : unboundCall.Distinct := by
    rw [Node.Distinct, nodes_unboundCall]
    decide
  have complete : unboundCall.Complete := by
    intro site arguments
    rw [nodes_unboundCall]
    simp [unboundCall, boundCall]
  have hbound : boundCall ∈ unboundCall.nodes := by
    rw [nodes_unboundCall]
    simp
  obtain ⟨hunion, hcatalog⟩ := reported_names_append Settings.standard.vocabulary complete (fun _ => [])
  obtain ⟨as, bs, es, has, hbs, hes, hmem, -, -, hnodup⟩ := hunion _ .collection ["bind"]
    ["unbind", "bind"] "binds" "both" "all" rfl rfl none none none {} {} {}
  have hinner : boundCall ∈ as.map (·.node) :=
    mem_nodes_of_chain (List.forall_mem_singleton.mpr (.collectionMethod ..)) distinct complete
      (List.mem_singleton.mpr rfl) hbound rfl (by decide +kernel) rfl (by decide +kernel) has
  have hinner' : boundCall ∈ bs.map (·.node) :=
    mem_nodes_of_chain (List.forall_mem_singleton.mpr (.collectionMethod ..)) distinct complete
      (List.mem_singleton.mpr rfl) hbound rfl (by decide +kernel) rfl (by decide +kernel) hbs
  obtain ⟨ds, d, hds, hd, hproblem⟩ := exists_reported_call Settings.standard.vocabulary (fun _ => [])
    Catalog.rules_made distinct complete unbindRule_mem unboundCall.self_mem_nodes rfl
    (by decide +kernel) rfl (by decide +kernel)
  obtain rfl := Finding.problem.inj hproblem
  obtain ⟨ds', es', hds', hes', hreplaced⟩ := hcatalog rfl Catalog.rules Catalog.rules
    (fun _ hr => hr) (fun _ hr => hr) (by decide)
  obtain rfl := Except.ok.inj (hds.symm.trans hds')
  obtain rfl := Except.ok.inj (hds.symm.trans hes')
  exact ⟨complete, ⟨as, bs, es, has, hbs, hes, hinner, hinner', (hmem boundCall).mpr (Or.inl hinner),
    hnodup distinct⟩, ds, hds, ⟨_, hd, rfl, rfl⟩, hreplaced _ hd rfl⟩

end Dispatch

end ChainLint
