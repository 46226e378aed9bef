import ChainLint.Proofs.Chain.Grammar
import ChainLint.Rule.Catalog

/-!
# What the handlers of a rule answer

`Rule.Made` lists the rules that can be made: the families, with any names, message and options, and the
two rules that look at more than a name. Their handlers differ in what they look for, but not in what
they do with a node (`Made.handle_cases`): they leave it alone, or they report this very node, once and
under the name of the rule, if a question to the classifier is answered with yes. The rules are looked
into here and nowhere else; where rules are run together, the two consequences `Made.reports` and
`Made.answers` are enough.
-/

namespace ChainLint

/-! ## Contexts that differ in the classifier -/

/-- Two contexts of one rule. What counts as a collection may differ, and so may the tree whose parents
they hold, and of the options all that rules do not look at. -/
structure Context.Alike (c c' : Context) : Prop where
  ruleId : c.ruleId = c'.ruleId
  allows : ∀ call, Rule.allows c call = Rule.allows c' call
  allowsScroll : Catalog.allowsScroll c = Catalog.allowsScroll c'
  isAlias : c.vocabulary.isAlias = c'.vocabulary.isAlias

theorem Context.Alike.refl (c : Context) : c.Alike c := ⟨rfl, fun _ => rfl, rfl, rfl⟩

theorem Context.Alike.reportUse_eq {c c' : Context} (alike : c.Alike c') :
    Rule.reportUse c = Rule.reportUse c' := by
  funext n message name origin o
  simp only [Rule.reportUse, alike.ruleId]

theorem Finding.mem_filterMap_problem? {fs : List Finding} {d : Diagnostic} :
    d ∈ fs.filterMap Finding.problem? ↔ .problem d ∈ fs := by
  rw [List.mem_filterMap]
  constructor
  · rintro ⟨finding, hfinding, hd⟩
    cases finding with
    | problem d' => rwa [← Option.some.inj hd]
    | visit v => cases hd
  · intro h
    exact ⟨_, h, rfl⟩

namespace Rule

/-- The rules of the families, and the rules on ajax events and on animations. -/
inductive Made : Rule → Prop
  | collectionMethod (names : List String) (message : Option Message) (o : RuleOptions) :
      Made (.collectionMethod names message o)
  | collectionProperty (name : String) (message : Option Message) (o : RuleOptions) :
      Made (.collectionProperty name message o)
  | utilityMethod (names : List String) (message : Option Message) (o : RuleOptions) :
      Made (.utilityMethod names message o)
  | utilityProperty (name : String) (message : Option Message) (o : RuleOptions) :
      Made (.utilityProperty name message o)
  | collectionOrUtilityMethod (names : List String) (message : Option Message) (o : RuleOptions) :
      Made (.collectionOrUtilityMethod names message o)
  | noAjaxEvents : Made Catalog.noAjaxEvents
  | noAnimate : Made Catalog.noAnimate

/-! ## Parts of a call -/

theorem mem_nodes_of_memberCallee? {n callee : Node} (h : n.memberCallee? = some callee) :
    callee ∈ n.nodes := by
  obtain ⟨site, arguments, rfl⟩ := Node.exists_of_memberCallee? h
  exact Node.child_mem_nodes (Node.self_mem_nodes _) (List.mem_cons_self ..)

theorem mem_nodes_of_object? {n object : Node} (h : n.object? = some object) : object ∈ n.nodes := by
  unfold Node.object? at h
  split at h
  · obtain rfl := Option.some.inj h
    exact Node.child_mem_nodes (Node.self_mem_nodes _) (List.mem_cons_self ..)
  · cases h

theorem calledMethod?_eq_some {names : List String} {n callee : Node} {name : String}
    (h : calledMethod? names n = some (callee, name)) :
    n.memberCallee? = some callee ∧ callee.propertyName? = some name ∧ name ∈ names := by
  simp only [calledMethod?, Option.bind_eq_bind, Option.bind_eq_some_iff] at h
  obtain ⟨callee', hcallee, name', hname, h⟩ := h
  split at h
  · rename_i hmem
    obtain ⟨rfl, rfl⟩ := Prod.mk.inj (Option.some.inj h)
    exact ⟨hcallee, hname, List.contains_iff_mem.mp hmem⟩
  · cases h

theorem calledMethod?_eq_some_iff {names : List String} {n callee : Node} {name : String} :
    calledMethod? names n = some (callee, name) ↔
      n.memberCallee? = some callee ∧ callee.propertyName? = some name ∧ name ∈ names := by
  refine ⟨calledMethod?_eq_some, ?_⟩
  rintro ⟨hcallee, hname, hmem⟩
  simp [calledMethod?, hcallee, hname, hmem]

theorem calledMethod?_eq_none_iff {names : List String} {n : Node} :
    calledMethod? names n = none ↔
      ∀ callee name, n.memberCallee? = some callee → callee.propertyName? = some name →
        name ∉ names := by
  rw [Option.eq_none_iff_forall_ne_some]
  constructor
  · intro h callee name hcallee hname hmem
    exact h (callee, name) (calledMethod?_eq_some_iff.mpr ⟨hcallee, hname, hmem⟩)
  · rintro h ⟨callee, name⟩ hcalled
    obtain ⟨hcallee, hname, hmem⟩ := calledMethod?_eq_some hcalled
    exact h callee name hcallee hname hmem

theorem mem_nodes_of_calledMethod? {names : List String} {n callee : Node} {name : String}
    (h : calledMethod? names n = some (callee, name)) : callee ∈ n.nodes :=
  mem_nodes_of_memberCallee? (calledMethod?_eq_some h).1

/-! ## What a handler does -/

theorem mem_reportIf_iff {answer : Except ChainError Bool} {finding f : Finding} :
    (∃ fs, reportIf answer finding = .ok fs ∧ f ∈ fs) ↔ answer = .ok true ∧ f = finding := by
  match answer with
  | .error e => simp [reportIf, bind, Except.bind]
  | .ok false => simp [reportIf, bind, Except.bind, pure, Except.pure]
  | .ok true => simp [reportIf, bind, Except.bind, pure, Except.pure]

/-- The handler of a rule leaves a node alone, or reports it if a question about a part of it is answered
with yes. -/
inductive Handles (c : Context) (n : Node) : Except ChainError (List Finding) → Prop
  | silence : Handles c n (.ok [])
  | question (origin : Origin) (m : Node) (hm : m ∈ n.nodes) {d : Diagnostic}
      (hr : d.ruleId = c.ruleId) (hn : d.node = n) :
      Handles c n (reportIf (c.classify origin m) (.problem d))

/-- A handler does the same in both contexts: it leaves the node alone, or reports it if a question about
a part of it is answered with yes. -/
inductive HandlesBoth (c c' : Context) (n : Node) :
    Except ChainError (List Finding) → Except ChainError (List Finding) → Prop
  | silence : HandlesBoth c c' n (.ok []) (.ok [])
  | question (origin : Origin) (m : Node) (hm : m ∈ n.nodes) {d : Diagnostic}
      (hr : d.ruleId = c.ruleId) (hn : d.node = n) :
      HandlesBoth c c' n (reportIf (c.classify origin m) (.problem d))
        (reportIf (c'.classify origin m) (.problem d))

theorem HandlesBoth.left {c c' : Context} {n : Node} {x y : Except ChainError (List Finding)}
    (h : HandlesBoth c c' n x y) : Handles c n x := by
  cases h with
  | silence => exact .silence
  | question origin m hm hr hn => exact .question origin m hm hr hn

/-- What is found in the first context is found in the second, if the classifier says yes there too. -/
theorem HandlesBoth.mono {c c' : Context} {n : Node} {x y : Except ChainError (List Finding)}
    (h : HandlesBoth c c' n x y)
    (hclass : ∀ origin m, c.classify origin m = .ok true → c'.classify origin m = .ok true)
    {f : Finding} (hx : ∃ fs, x = .ok fs ∧ f ∈ fs) : ∃ fs, y = .ok fs ∧ f ∈ fs := by
  cases h with
  | silence => exact hx
  | question origin m hm hr hn =>
      obtain ⟨hyes, hf⟩ := mem_reportIf_iff.mp hx
      exact mem_reportIf_iff.mpr ⟨hclass origin m hyes, hf⟩

theorem HandlesBoth.eq_of_classify {c c' : Context} {n : Node}
    {x y : Except ChainError (List Finding)} (h : HandlesBoth c c' n x y)
    (hclass : ∀ origin, ∀ m ∈ n.nodes, c.classify origin m = c'.classify origin m) : x = y := by
  cases h with
  | silence => rfl
  | question origin m hm hr hn => rw [hclass origin m hm]

/-- The rules, one after the other. Of the context a rule uses its name, the options, the names of the
constructor, and whether the node is called; all else it leaves to the classifier. -/
theorem Made.handle_both {rule : Rule} (made : rule.Made) {c c' : Context} (alike : c.Alike c') :
    ∃ selector handle handle', rule.visitor c = [⟨selector, handle⟩] ∧
      rule.visitor c' = [⟨selector, handle'⟩] ∧
      ∀ n, c.parents.isCallee n = c'.parents.isCallee n →
        HandlesBoth c c' n (handle n) (handle' n) := by
  cases made with
  | collectionMethod names message o =>
      refine ⟨_, _, _, rfl, rfl, fun n _ => ?_⟩
      rw [← Vocabulary.isConstructor_eq alike.isAlias, ← alike.allows n, ← alike.reportUse_eq]
      cases hcalled : calledMethod? names n with
      | none => exact .silence
      | some called =>
          obtain ⟨callee, name⟩ := called
          dsimp only
          split_ifs
          · exact .silence
          · exact .silence
          · exact .question .collection callee (mem_nodes_of_calledMethod? hcalled) rfl rfl
  | collectionProperty name message o =>
      refine ⟨_, _, _, rfl, rfl, fun n hcalled => ?_⟩
      rw [← hcalled, ← alike.reportUse_eq]
      cases hobject : n.object? with
      | none => exact .silence
      | some object =>
          dsimp only
          split_ifs
          · exact .silence
          · exact .silence
          · exact .question .collection object (mem_nodes_of_object? hobject) rfl rfl
  | utilityMethod names message o =>
      refine ⟨_, _, _, rfl, rfl, fun n _ => ?_⟩
      rw [← alike.reportUse_eq]
      cases hcalled : calledMethod? names n with
      | none => exact .silence
      | some called =>
          obtain ⟨callee, name⟩ := called
          dsimp only
          cases hobject : callee.object? with
          | none => exact .silence
          | some object =>
              have hcallee := mem_nodes_of_calledMethod? hcalled
              exact .question .utility object
                (Node.nodes_subset hcallee (mem_nodes_of_object? hobject)) rfl rfl
  | utilityProperty name message o =>
      refine ⟨_, _, _, rfl, rfl, fun n _ => ?_⟩
      rw [← alike.reportUse_eq]
      cases hobject : n.object? with
      | none => exact .silence
      | some object =>
          dsimp only
          split_ifs
          · exact .silence
          · exact .question .utility object (mem_nodes_of_object? hobject) rfl rfl
  | collectionOrUtilityMethod names message o =>
      refine ⟨_, _, _, rfl, rfl, fun n _ => ?_⟩
      rw [← alike.reportUse_eq]
      cases hcalled : calledMethod? names n with
      | none => exact .silence
      | some called =>
          obtain ⟨callee, name⟩ := called
          exact .question .either callee (mem_nodes_of_calledMethod? hcalled) rfl rfl
  | noAjaxEvents =>
      refine ⟨_, _, _, rfl, rfl, fun n _ => ?_⟩
      rw [← alike.ruleId]
      cases Catalog.ajaxEvent? n with
      | none => exact .silence
      | some event => exact .question .collection n n.self_mem_nodes rfl rfl
  | noAnimate =>
      refine ⟨_, _, _, rfl, rfl, fun n _ => ?_⟩
      rw [← alike.ruleId, ← alike.allowsScroll]
      split_ifs
      · exact .silence
      · exact .silence
      · exact .question .collection n n.self_mem_nodes rfl rfl
      · exact .question .collection n n.self_mem_nodes rfl rfl

theorem Made.handle_cases {rule : Rule} (made : rule.Made) {c : Context} {h : Handler}
    (hh : h ∈ rule.visitor c) (n : Node) : Handles c n (h.handle n) := by
  obtain ⟨selector, handle, _, hvisitor, -, hboth⟩ := made.handle_both (.refl c)
  rw [hvisitor] at hh
  obtain rfl := List.mem_singleton.mp hh
  exact (hboth n rfl).left

/-- What a handler finds at a node is at most one diagnostic, on this node and under the rule's name. -/
theorem Made.reports {rule : Rule} (made : rule.Made) {c : Context} {h : Handler}
    (hh : h ∈ rule.visitor c) {n : Node} {fs : List Finding} (hfs : h.handle n = .ok fs) :
    fs = [] ∨ ∃ d, fs = [.problem d] ∧ d.ruleId = c.ruleId ∧ d.node = n := by
  have hcases := made.handle_cases hh n
  rw [hfs] at hcases
  generalize hx : Except.ok fs = x at hcases
  cases hcases with
  | silence => exact Or.inl (Except.ok.inj hx)
  | question origin m hm hr hn =>
      match hq : c.classify origin m with
      | .error e =>
          rw [hq] at hx
          cases hx
      | .ok false =>
          rw [hq] at hx
          exact Or.inl (Except.ok.inj hx)
      | .ok true =>
          rw [hq] at hx
          exact Or.inr ⟨_, Except.ok.inj hx, hr, hn⟩

/-- A rule signs what it finds. -/
theorem Made.signs {rule : Rule} (made : rule.Made) {c : Context} {h : Handler}
    (hh : h ∈ rule.visitor c) {n : Node} {fs : List Finding} (hfs : h.handle n = .ok fs)
    {d : Diagnostic} (hd : .problem d ∈ fs) : d.ruleId = c.ruleId ∧ d.node = n := by
  rcases made.reports hh hfs with rfl | ⟨d', rfl, hid, hnode⟩
  · cases hd
  · obtain rfl : d = d' := by simpa using hd
    exact ⟨hid, hnode⟩

/-- A handler fails only where a callee is missing. -/
theorem Made.answers {rule : Rule} (made : rule.Made) {c : Context} {h : Handler}
    (hh : h ∈ rule.visitor c) {n : Node} (complete : n.Complete) :
    ∃ fs, h.handle n = .ok fs := by
  have hcases := made.handle_cases hh n
  generalize h.handle n = x at hcases
  cases hcases with
  | silence => exact ⟨[], rfl⟩
  | question origin m hm hr hn =>
      obtain ⟨b, hb⟩ := c.vocabulary.classify_answers c.parents origin (complete.of_mem hm)
      rw [Context.classify, hb]
      exact ⟨_, rfl⟩

/-- A rule is told of the calls, or of the accesses, that are left. -/
theorem Made.exists_handler {rule : Rule} (made : rule.Made) (c : Context) :
    ∃ h, rule.visitor c = [h] ∧
      (h.selector = "CallExpression:exit" ∨ h.selector = "MemberExpression:exit") := by
  cases made with
  | collectionProperty | utilityProperty => exact ⟨_, rfl, .inr rfl⟩
  | collectionMethod | utilityMethod | collectionOrUtilityMethod | noAjaxEvents | noAnimate =>
      exact ⟨_, rfl, .inl rfl⟩

/-- Other nodes are left alone. -/
theorem Made.silent {rule : Rule} (made : rule.Made) {c : Context} {h : Handler}
    (hh : h ∈ rule.visitor c) {n : Node} (hcallee : n.memberCallee? = none) (hobject : n.object? = none) :
    h.handle n = .ok [] := by
  have hcalled : ∀ names, calledMethod? names n = none := by
    intro names
    simp only [calledMethod?, hcallee, Option.bind_eq_bind, Option.bind_none]
  cases made with
  | collectionMethod | utilityMethod | collectionOrUtilityMethod =>
      obtain rfl := List.mem_singleton.mp hh
      simp only [hcalled]
  | collectionProperty | utilityProperty =>
      obtain rfl := List.mem_singleton.mp hh
      simp only [hobject]
  | noAjaxEvents =>
      obtain rfl := List.mem_singleton.mp hh
      simp only [Catalog.ajaxEvent?, hcallee]
  | noAnimate =>
      obtain rfl := List.mem_singleton.mp hh
      simp only [hcallee, Option.bind_none]
      rfl

theorem allows_of_ne {c : Context} {call : Node} (hget : c.option? allowKey ≠ some (.text "get"))
    (hset : c.option? allowKey ≠ some (.text "set")) : allows c call = false := by
  unfold allows
  split
  · exact absurd ‹_› hget
  · exact absurd ‹_› hset
  · rfl

theorem allows_of_plain {c : Context} (plain : c.options = []) (call : Node) : allows c call = false := by
  simp only [allows, Context.option?, plain]

/-- A rule on collection methods reports a call of one of them where nothing speaks against it. -/
theorem collectionMethod_handle (names : List String) (message : Option Message) (o : RuleOptions)
    {c : Context} {h : Handler} (hh : h ∈ (collectionMethod names message o).visitor c)
    {call callee : Node} {name : String} (called : calledMethod? names call = some (callee, name))
    (constructor : callee.object?.any c.vocabulary.isConstructor = false)
    (allowed : allows c call = false) (answer : c.classify .collection callee = .ok true) :
    h.handle call = .ok [reportUse c call message name .collection o] := by
  obtain rfl := List.mem_singleton.mp hh
  simp only [called, constructor, allowed, answer]
  rfl

/-- What a rule on collection methods finds at a node: a call of one of its methods, on a receiver
that is not the constructor, if the options forbid it and the callee is a collection. -/
theorem collectionMethod_finds_iff {names : List String} {message : Option Message} {o : RuleOptions}
    {c : Context} {h : Handler} (hh : h ∈ (collectionMethod names message o).visitor c) {n : Node}
    {d : Diagnostic} :
    (∃ fs, h.handle n = .ok fs ∧ .problem d ∈ fs) ↔
      ∃ callee name, calledMethod? names n = some (callee, name) ∧
        callee.object?.any c.vocabulary.isConstructor = false ∧ allows c n = false ∧
        c.classify .collection callee = .ok true ∧
        .problem d = reportUse c n message name .collection o := by
  obtain rfl := List.mem_singleton.mp hh
  dsimp only
  match calledMethod? names n with
  | none => simp
  | some (callee, name) =>
      cases hconstructor : callee.object?.any c.vocabulary.isConstructor with
      | true => simp [hconstructor]
      | false =>
          cases hallows : allows c n with
          | true => simp
          | false => simp [hconstructor, mem_reportIf_iff]

theorem collectionOrUtilityMethod_finds_iff {names : List String} {message : Option Message}
    {o : RuleOptions} {c : Context} {h : Handler}
    (hh : h ∈ (collectionOrUtilityMethod names message o).visitor c) {n : Node} {d : Diagnostic} :
    (∃ fs, h.handle n = .ok fs ∧ .problem d ∈ fs) ↔
      ∃ callee name, calledMethod? names n = some (callee, name) ∧
        c.classify .either callee = .ok true ∧ .problem d = reportUse c n message name .either o := by
  obtain rfl := List.mem_singleton.mp hh
  dsimp only
  match calledMethod? names n with
  | none => simp
  | some (callee, name) => simp [mem_reportIf_iff]

/-! ## Rules on methods -/

/-- Of the calls of the named methods the rule reports those that pass a test of the call and its callee,
and it reports nothing else. -/
def ReportsCalls (rule : Rule) (c : Context) (names : List String) (test : Node → Node → Prop) : Prop :=
  ∃ handle, rule.visitor c = onCall handle ∧
    ∀ n, (∃ fs d, handle n = .ok fs ∧ .problem d ∈ fs) ↔
      ∃ callee name, calledMethod? names n = some (callee, name) ∧ test n callee

/-- The node calls one of the methods and passes a test of the call and its callee. -/
def Selects (names : List String) (test : Node → Node → Prop) (n : Node) : Prop :=
  ∃ callee name, calledMethod? names n = some (callee, name) ∧ test n callee

theorem selects_iff {names : List String} {test : Node → Node → Prop} {n callee : Node}
    {name : String} (hcallee : n.memberCallee? = some callee) (hname : callee.propertyName? = some name) :
    Selects names test n ↔ name ∈ names ∧ test n callee := by
  constructor
  · rintro ⟨callee', name', hcalled, htest⟩
    obtain ⟨hcallee', hname', hmem⟩ := calledMethod?_eq_some hcalled
    obtain rfl := Option.some.inj (hcallee.symm.trans hcallee')
    obtain rfl := Option.some.inj (hname.symm.trans hname')
    exact ⟨hmem, htest⟩
  · rintro ⟨hmem, htest⟩
    exact ⟨callee, name, calledMethod?_eq_some_iff.mpr ⟨hcallee, hname, hmem⟩, htest⟩

section

variable {names : List String} {message : Option Message} {o : RuleOptions}

theorem exists_reportIf_iff {answer : Except ChainError Bool} {d : Diagnostic} :
    (∃ fs d', reportIf answer (.problem d) = .ok fs ∧ .problem d' ∈ fs) ↔ answer = .ok true := by
  rw [exists_comm]
  simp only [mem_reportIf_iff, Finding.problem.injEq, exists_and_left, exists_eq, and_true]

theorem not_exists_silence :
    ¬ ∃ fs d, (Except.ok [] : Except ChainError (List Finding)) = .ok fs ∧ Finding.problem d ∈ fs := by
  rintro ⟨fs, d, ⟨⟩, ⟨⟩⟩

/-- The rules on methods leave alone what is no call of their methods. -/
theorem reportsCalls_of_called {rule : Rule} {c : Context}
    {handle : Node → Except ChainError (List Finding)} {test : Node → Node → Prop}
    (hvisitor : rule.visitor c = onCall handle)
    (hnone : ∀ n, calledMethod? names n = none → handle n = .ok [])
    (hsome : ∀ n callee name, calledMethod? names n = some (callee, name) →
      ((∃ fs d, handle n = .ok fs ∧ .problem d ∈ fs) ↔ test n callee)) :
    rule.ReportsCalls c names test := by
  refine ⟨handle, hvisitor, fun n => ?_⟩
  cases hcalled : calledMethod? names n with
  | none =>
      rw [hnone n hcalled]
      exact iff_of_false not_exists_silence nofun
  | some called =>
      obtain ⟨callee, name⟩ := called
      rw [hsome n callee name hcalled]
      constructor
      · intro h
        exact ⟨callee, name, rfl, h⟩
      · rintro ⟨callee', name', ⟨⟩, h⟩
        exact h

theorem reportsCalls_collectionMethod (c : Context) :
    ReportsCalls (collectionMethod names message o) c names fun n callee =>
      callee.object?.any c.vocabulary.isConstructor = false ∧ allows c n = false ∧
        c.classify .collection callee = .ok true := by
  refine ⟨_, rfl, fun n => ?_⟩
  have hhandler : _ ∈ (collectionMethod names message o).visitor c := List.mem_singleton.mpr rfl
  constructor
  · rintro ⟨fs, d, hfs, hd⟩
    obtain ⟨callee, name, hcalled, hconstructor, hallows, hclass, -⟩ :=
      (collectionMethod_finds_iff hhandler).mp ⟨fs, hfs, hd⟩
    exact ⟨callee, name, hcalled, hconstructor, hallows, hclass⟩
  · rintro ⟨callee, name, hcalled, hconstructor, hallows, hclass⟩
    obtain ⟨fs, hfs, hd⟩ := (collectionMethod_finds_iff hhandler).mpr
      ⟨callee, name, hcalled, hconstructor, hallows, hclass, rfl⟩
    exact ⟨fs, _, hfs, hd⟩

theorem reportsCalls_utilityMethod (c : Context) :
    ReportsCalls (utilityMethod names message o) c names fun _ callee =>
      callee.object?.any c.vocabulary.isConstructor = true := by
  refine reportsCalls_of_called rfl (fun n hcalled => ?_) fun n callee name hcalled => ?_
  · rw [hcalled]
  · rw [hcalled]
    dsimp only
    cases callee.object? with
    | none => exact iff_of_false not_exists_silence nofun
    | some object =>
        rw [reportUse, exists_reportIf_iff, Context.classify, Vocabulary.classify]
        simp only [Except.ok.injEq]

theorem reportsCalls_collectionOrUtilityMethod (c : Context) :
    ReportsCalls (collectionOrUtilityMethod names message o) c names fun _ callee =>
      c.classify .either callee = .ok true := by
  refine reportsCalls_of_called rfl (fun n hcalled => ?_) fun n callee name hcalled => ?_
  · rw [hcalled]
  · rw [hcalled]
    exact exists_reportIf_iff

end

end Rule

/-! ## The catalog -/

theorem Catalog.rules_made : ∀ r ∈ Catalog.rules, r.2.Made := by
  simp only [Catalog.rules, List.forall_mem_cons, List.not_mem_nil, false_implies, implies_true,
    and_true]
  exact ⟨.utilityMethod .., .noAjaxEvents, .collectionMethod .., .noAnimate,
    .collectionOrUtilityMethod .., .collectionMethod .., .utilityProperty .., .utilityProperty ..,
    .collectionOrUtilityMethod .., .collectionMethod .., .collectionProperty ..,
    .collectionMethod .., .collectionMethod .., .collectionMethod ..⟩

theorem Catalog.rules_distinct : (Catalog.rules.map (·.1)).Nodup := by decide

/-- A rule of the catalog is known by its name. -/
theorem Catalog.eq_of_name {r r' : String × Rule} (hr : r ∈ Catalog.rules) (hr' : r' ∈ Catalog.rules)
    (h : r.1 = r'.1) : r = r' :=
  List.inj_on_of_nodup_map Catalog.rules_distinct hr hr' h

end ChainLint
