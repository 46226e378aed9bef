import ChainLint.Proofs.Concrete.ObjectLiterals
import ChainLint.Proofs.Dispatch.FamilyAgreement
import ChainLint.Proofs.Lint.Answers

/-!
# Animations that only scroll

The rule on animations reports the same calls with and without the option that allows scrolling, but for
those whose first argument passes its test (`Dispatch.map_node_scrolling`). Every call that is reported was
lowered from one that is written, so that the test can be read as one of what is written
(`SourceText.arguments_onlyScroll_iff`). So the option takes the calls which only scroll out of the report,
and no others (`Dispatch.reported_scrolling`).
-/

namespace ChainLint.Concrete.SourceText

open ChainLint.Concrete.Tree

/-- The node is that of a call in the tree which only sets scroll positions. -/
def LowersScroll (s : SourceText) (root : Tree) (m : Node) : Prop :=
  ∃ call, root.Entered call ∧ call.kind = "call_expression" ∧ s.lower call = .ok m ∧ s.OnlyScrolls call

variable {s : SourceText} {root call : Tree} {m : Node}
  (grammatical : ∀ t, root.Contains t → t.Grammatical)

include grammatical

theorem arguments_onlyScroll_iff (entered : root.Entered call) (kind : call.kind = "call_expression")
    (h : s.lower call = .ok m) :
    m.arguments.head?.any Catalog.onlyScrolls = true ↔ s.OnlyScrolls call := by
  rw [lower_eq_recurse] at h
  have role : call.role = .call := by
    rw [role, kind]
    rfl
  exact first_onlyScrolls_iff (fun u hu => grammatical u ((contains_of_entered entered).trans hu)) role h

theorem arguments_onlyScroll_iff_lowersScroll
    (hcall : ∃ call, root.Entered call ∧ call.kind = "call_expression" ∧ s.lower call = .ok m) :
    m.arguments.head?.any Catalog.onlyScrolls = true ↔ s.LowersScroll root m := by
  constructor
  · intro h
    obtain ⟨call, entered, kind, hlower⟩ := hcall
    exact ⟨call, entered, kind, hlower, (arguments_onlyScroll_iff grammatical entered kind hlower).mp h⟩
  · rintro ⟨call, entered, kind, hlower, h⟩
    exact (arguments_onlyScroll_iff grammatical entered kind hlower).mpr h

end ChainLint.Concrete.SourceText

namespace ChainLint.Dispatch

open Concrete

variable {v : Vocabulary} {n : Node} {id : String} {plain scroll : OptionsTable}

/-! ## The two runs -/

theorem map_node_scrolling
    (without : Catalog.allowsScroll (contextOf v (.ofRoot n) plain id) = false)
    (allowed : Catalog.allowsScroll (contextOf v (.ofRoot n) scroll id) = true)
    {ds es : List Diagnostic} (hds : reported v n [(id, Catalog.noAnimate)] plain = .ok ds)
    (hes : reported v n [(id, Catalog.noAnimate)] scroll = .ok es) :
    es.map (·.node) =
      (ds.map (·.node)).filter fun m => !m.arguments.head?.any Catalog.onlyScrolls := by
  classical
  rw [map_node_reported .noAnimate (Rule.reportsCalls_noAnimate _) hds,
    map_node_reported .noAnimate (Rule.reportsCalls_noAnimate _) hes,
    filter_mergeSort Node.startsFirst_trans Node.startsFirst_total, List.filter_filter]
  congr 1
  refine List.filter_congr fun m _ => ?_
  simp only [Rule.Selects, without, allowed, Bool.true_and, Bool.false_and, true_and]
  cases m.arguments.head?.any Catalog.onlyScrolls with
  | true => simp
  | false =>
      rw [Bool.not_false, Bool.true_and]
      simp only [true_and]
      rfl

open Classical in
/-- **Scrolling is allowed, and nothing else is.** For a tree of the kinds that the grammar has, the rule on
animations reports with the option that allows scrolling what it reports without, but for the calls
whose first argument is an object literal that sets scroll positions only. A call with any other entry
is still reported. -/
theorem reported_scrolling (s : SourceText) {root : Tree}
    (grammatical : ∀ t, root.Contains t → t.Grammatical) {n : Node} (lowered : s.lower root = .ok n)
    (v : Vocabulary) (id : String) {plain scroll : OptionsTable}
    (without : (contextOf v (.ofRoot n) plain id).option? Catalog.scrollKey = none)
    (allowed : (contextOf v (.ofRoot n) scroll id).option? Catalog.scrollKey = some (.boolean true)) :
    ∃ ds es,
      reported v n [(id, Catalog.noAnimate)] plain = .ok ds ∧
      reported v n [(id, Catalog.noAnimate)] scroll = .ok es ∧
      (∀ m ∈ ds.map (·.node), ∃ call, root.Entered call ∧ call.kind = "call_expression" ∧
        s.lower call = .ok m) ∧
      es.map (·.node) = (ds.map (·.node)).filter (fun m => ¬ s.LowersScroll root m) ∧
      ∀ call m, root.Entered call → call.kind = "call_expression" → s.lower call = .ok m →
        (m ∈ es.map (·.node) ↔ m ∈ ds.map (·.node) ∧ ¬ s.OnlyScrolls call) ∧
        ∀ first object e, call.callArguments.head? = some first → first.Wraps object →
          object.kind = "object" → e ∈ object.parts → s.OtherEntry e →
          (m ∈ es.map (·.node) ↔ m ∈ ds.map (·.node)) := by
  have complete := SourceText.complete_of_lower lowered
  have made : ∀ r ∈ [(id, Catalog.noAnimate)], r.2.Made := List.forall_mem_singleton.mpr .noAnimate
  obtain ⟨ds, hds⟩ := exists_reported v plain made complete
  obtain ⟨es, hes⟩ := exists_reported v scroll made complete
  have hnodes := map_node_scrolling (by simp only [Catalog.allowsScroll, without])
    (by simp [Catalog.allowsScroll, allowed, Config.Value.isVoid]) hds hes
  have hcalls : ∀ m ∈ ds.map (·.node), ∃ call, root.Entered call ∧ call.kind = "call_expression" ∧
      s.lower call = .ok m := by
    intro m hm
    obtain ⟨hmem, callee, name, hcalled, -⟩ :=
      (mem_nodes_reported_iff .noAnimate (Rule.reportsCalls_noAnimate _) hds).mp hm
    obtain ⟨site, arguments, rfl⟩ :=
      Node.exists_of_memberCallee? (Rule.calledMethod?_eq_some hcalled).1
    rw [SourceText.lower_eq_recurse] at lowered
    obtain ⟨call, entered, role, hcall⟩ := SourceText.exists_call_of_mem lowered hmem
    exact ⟨call, entered, Tree.kind_of_role_call role,
      (SourceText.lower_eq_recurse ..).trans hcall⟩
  have hiff : ∀ call m, root.Entered call → call.kind = "call_expression" → s.lower call = .ok m →
      (m ∈ es.map (·.node) ↔ m ∈ ds.map (·.node) ∧ ¬ s.OnlyScrolls call) := by
    intro call m entered kind hcall
    rw [hnodes, List.mem_filter, Bool.not_eq_true', Bool.eq_false_iff, ne_eq,
      SourceText.arguments_onlyScroll_iff grammatical entered kind hcall]
  refine ⟨ds, es, hds, hes, hcalls, ?_, fun call m entered kind hcall =>
    ⟨hiff call m entered kind hcall, fun first object e hfirst wraps hobject he other => ?_⟩⟩
  · rw [hnodes]
    refine List.filter_congr fun m hm => ?_
    rw [Bool.eq_iff_iff, Bool.not_eq_true', Bool.eq_false_iff, ne_eq, decide_eq_true_iff,
      SourceText.arguments_onlyScroll_iff_lowersScroll grammatical (hcalls m hm)]
  · rw [hiff call m entered kind hcall]
    exact and_iff_left (SourceText.not_onlyScrolls_of_other hfirst wraps hobject he other)

/-- A link of a chain is reported, if the option does not let it through. -/
theorem mem_nodes_animations {root call callee : Node} (distinct : root.Distinct)
    (complete : root.Complete) (hcall : call ∈ root.nodes)
    (hcalled : Rule.calledMethod? ["animate"] call = some (callee, "animate"))
    (hconstructor : callee.object?.any v.isConstructor = false) (hchain : v.chain callee true = true)
    (unplugged : v.plugin? "animate" = none) {options : OptionsTable}
    (notAllowed : Catalog.allowsScroll (contextOf v (.ofRoot root) options id) = false)
    {ds : List Diagnostic} (hds : reported v root [(id, Catalog.noAnimate)] options = .ok ds) :
    call ∈ ds.map (·.node) := by
  obtain ⟨hcallee, hname, -⟩ := Rule.calledMethod?_eq_some hcalled
  have hmem : callee ∈ root.nodes := Node.nodes_subset hcall (Rule.mem_nodes_of_memberCallee? hcallee)
  obtain ⟨site, arguments, rfl⟩ := Node.exists_of_memberCallee? hcallee
  refine (mem_nodes_reported_iff .noAnimate (Rule.reportsCalls_noAnimate _) hds).mpr
    ⟨hcall, callee, "animate", hcalled, by rw [notAllowed, Bool.false_and], ?_⟩
  refine (Vocabulary.classify_call_iff _ hcallee hname).mpr
    ⟨hconstructor, Vocabulary.not_leaves_of_keeps (by decide) unplugged, ?_⟩
  rw [Vocabulary.classify, Vocabulary.peelOption, contextOf,
    Vocabulary.peel_ofRoot _ distinct complete hmem, Parents.isCallee_callee distinct hcall, hchain]

/-! ## A chain of two animations -/

/-- The argument in the first call of `$x.animate(({scrollTop})).animate({...y});`. -/
def scrollTree : Tree :=
  .node ⟨9, none, "parenthesized_expression", 11, 24, 0, 11⟩
    [.node ⟨10, none, "object", 12, 23, 0, 12⟩
      [.node ⟨11, none, "shorthand_property_identifier", 13, 22, 0, 13⟩ []]]

def scrollCall : Tree :=
  .node ⟨4, some "object", "call_expression", 0, 25, 0, 0⟩
    [.node ⟨5, some "function", "member_expression", 0, 10, 0, 0⟩
        [.node ⟨6, some "object", "identifier", 0, 2, 0, 0⟩ [],
          .node ⟨7, some "property", "property_identifier", 3, 10, 0, 3⟩ []],
      .node ⟨8, some "arguments", "arguments", 10, 25, 0, 10⟩ [scrollTree]]

def spreadTree : Tree :=
  .node ⟨14, none, "object", 34, 40, 0, 34⟩
    [.node ⟨15, none, "spread_element", 35, 39, 0, 35⟩ [.node ⟨16, none, "identifier", 38, 39, 0, 38⟩ []]]

def spreadCall : Tree :=
  .node ⟨2, none, "call_expression", 0, 41, 0, 0⟩
    [.node ⟨3, some "function", "member_expression", 0, 33, 0, 0⟩
        [scrollCall, .node ⟨12, some "property", "property_identifier", 26, 33, 0, 26⟩ []],
      .node ⟨13, some "arguments", "arguments", 33, 41, 0, 33⟩ [spreadTree]]

def scrollSource : SourceText := .ofString "$x.animate(({scrollTop})).animate({...y});"

/-- The node of the first call, and that of its callee. -/
def scrollCallee : Node :=
  .member ⟨5, ⟨0, 10⟩, ⟨1, 0⟩⟩ (.identifier ⟨6, ⟨0, 2⟩, ⟨1, 0⟩⟩ "$x")
    (.identifier ⟨7, ⟨3, 10⟩, ⟨1, 3⟩⟩ "animate") false

def scrollNode : Node :=
  .call ⟨4, ⟨0, 25⟩, ⟨1, 0⟩⟩ (some scrollCallee)
    [.other ⟨10, ⟨12, 23⟩, ⟨1, 12⟩⟩ "ObjectExpression" [.identifier ⟨11, ⟨13, 22⟩, ⟨1, 13⟩⟩ "scrollTop"]]

def spreadCallee : Node :=
  .member ⟨3, ⟨0, 33⟩, ⟨1, 0⟩⟩ scrollNode (.identifier ⟨12, ⟨26, 33⟩, ⟨1, 26⟩⟩ "animate") false

def spreadNode : Node :=
  .call ⟨2, ⟨0, 41⟩, ⟨1, 0⟩⟩ (some spreadCallee)
    [.other ⟨14, ⟨34, 40⟩, ⟨1, 34⟩⟩ "ObjectExpression"
      [.other ⟨15, ⟨35, 39⟩, ⟨1, 35⟩⟩ "SpreadElement" [.identifier ⟨16, ⟨38, 39⟩, ⟨1, 38⟩⟩ "y"]]]

theorem grammatical_spreadCall : ∀ t, spreadCall.Contains t → t.Grammatical := by decide

theorem recurse_scrollCall : scrollSource.recurse scrollCall = .ok scrollNode := by
  have hcallee : scrollSource.recurseOperand (scrollCall.field? "function") = .ok scrollCallee :=
    SourceText.recurse_of_operands
      (.cons (SourceText.recurse_of_operands .nil rfl) (.cons (SourceText.recurse_of_operands .nil rfl)
        .nil)) rfl
  have hobject : scrollSource.recurse scrollTree =
      .ok (.other ⟨10, ⟨12, 23⟩, ⟨1, 12⟩⟩ "ObjectExpression"
        [.identifier ⟨11, ⟨13, 22⟩, ⟨1, 13⟩⟩ "scrollTop"]) :=
    SourceText.recurse_of_operands
      (.cons (SourceText.recurse_of_operands (.cons (SourceText.recurse_of_operands .nil rfl) .nil) rfl)
        .nil) rfl
  exact SourceText.recurse_of_operands (.cons hcallee (.cons hobject .nil)) rfl

theorem lower_spreadCall : scrollSource.lower spreadCall = .ok spreadNode := by
  have hcallee : scrollSource.recurseOperand (spreadCall.field? "function") = .ok spreadCallee :=
    SourceText.recurse_of_operands
      (.cons recurse_scrollCall (.cons (SourceText.recurse_of_operands .nil rfl) .nil)) rfl
  have hobject : scrollSource.recurse spreadTree =
      .ok (.other ⟨14, ⟨34, 40⟩, ⟨1, 34⟩⟩ "ObjectExpression"
        [.other ⟨15, ⟨35, 39⟩, ⟨1, 35⟩⟩ "SpreadElement" [.identifier ⟨16, ⟨38, 39⟩, ⟨1, 38⟩⟩ "y"]]) :=
    SourceText.recurse_of_operands
      (.cons (SourceText.recurse_of_operands (.cons (SourceText.recurse_of_operands .nil rfl) .nil) rfl)
        .nil) rfl
  rw [SourceText.lower_eq_recurse]
  exact SourceText.recurse_of_operands (.cons hcallee (.cons hobject .nil)) rfl

theorem nodes_spreadNode :
    spreadNode.nodes =
      [spreadNode, spreadCallee, scrollNode, scrollCallee, .identifier ⟨6, ⟨0, 2⟩, ⟨1, 0⟩⟩ "$x",
        .identifier ⟨7, ⟨3, 10⟩, ⟨1, 3⟩⟩ "animate",
        .other ⟨10, ⟨12, 23⟩, ⟨1, 12⟩⟩ "ObjectExpression"
          [.identifier ⟨11, ⟨13, 22⟩, ⟨1, 13⟩⟩ "scrollTop"],
        .identifier ⟨11, ⟨13, 22⟩, ⟨1, 13⟩⟩ "scrollTop",
        .identifier ⟨12, ⟨26, 33⟩, ⟨1, 26⟩⟩ "animate",
        .other ⟨14, ⟨34, 40⟩, ⟨1, 34⟩⟩ "ObjectExpression"
          [.other ⟨15, ⟨35, 39⟩, ⟨1, 35⟩⟩ "SpreadElement" [.identifier ⟨16, ⟨38, 39⟩, ⟨1, 38⟩⟩ "y"]],
        .other ⟨15, ⟨35, 39⟩, ⟨1, 35⟩⟩ "SpreadElement" [.identifier ⟨16, ⟨38, 39⟩, ⟨1, 38⟩⟩ "y"],
        .identifier ⟨16, ⟨38, 39⟩, ⟨1, 38⟩⟩ "y"] := by
  simp [spreadNode, spreadCallee, scrollNode, scrollCallee, Node.nodes_eq, Node.children]

theorem distinct_spreadNode : spreadNode.Distinct := by
  rw [Node.Distinct, nodes_spreadNode]
  decide

/-- Options tables that allow scrolling. -/
def allowingScroll : OptionsTable := fun _ => [.table [(.text Catalog.scrollKey, .boolean true)]]

theorem entered_scrollCall : spreadCall.Entered scrollCall := by
  have hcallee : some (spreadCall.children[0]) ∈ spreadCall.operands := List.mem_cons_self ..
  have hobject : some scrollCall ∈ (spreadCall.children[0]).operands := List.mem_cons_self ..
  exact .head hcallee (.single hobject)

theorem onlyScrolls_scrollCall : scrollSource.OnlyScrolls scrollCall := by
  refine ⟨scrollTree, _, rfl, .single ⟨rfl, rfl⟩, rfl, fun e he => ?_⟩
  obtain rfl := List.mem_singleton.mp he
  exact .shorthand rfl ⟨"scrollTop", by decide, rfl⟩

theorem reported_scrolling_spreadCall :
    (∀ t, spreadCall.Contains t → t.Grammatical) ∧ scrollSource.lower spreadCall = .ok spreadNode ∧
      ∃ ds es,
        reported Settings.standard.vocabulary spreadNode [("animations", Catalog.noAnimate)]
          (fun _ => []) = .ok ds ∧
        reported Settings.standard.vocabulary spreadNode [("animations", Catalog.noAnimate)]
          allowingScroll = .ok es ∧
        scrollNode ∈ ds.map (·.node) ∧ scrollNode ∉ es.map (·.node) ∧ spreadNode ∈ es.map (·.node) := by
  have without : (contextOf Settings.standard.vocabulary (.ofRoot spreadNode) (fun _ => [])
      "animations").option? Catalog.scrollKey = none := rfl
  have allowed : (contextOf Settings.standard.vocabulary (.ofRoot spreadNode) allowingScroll
      "animations").option? Catalog.scrollKey = some (.boolean true) := rfl
  obtain ⟨ds, es, hds, hes, -, -, hcalls⟩ :=
    reported_scrolling scrollSource grammatical_spreadCall lower_spreadCall
      Settings.standard.vocabulary "animations" without allowed
  have complete := SourceText.complete_of_lower lower_spreadCall
  have hscroll : scrollNode ∈ ds.map (·.node) :=
    mem_nodes_animations distinct_spreadNode complete (by simp [nodes_spreadNode]) rfl
      (by decide +kernel) (by decide +kernel) (by decide) rfl hds
  have hspread : spreadNode ∈ ds.map (·.node) :=
    mem_nodes_animations distinct_spreadNode complete (by simp [nodes_spreadNode]) rfl
      (by decide +kernel) (by decide +kernel) (by decide) rfl hds
  refine ⟨grammatical_spreadCall, lower_spreadCall, ds, es, hds, hes, hscroll, fun hallowed => ?_, ?_⟩
  · have hlower : scrollSource.lower scrollCall = .ok scrollNode :=
      (SourceText.lower_eq_recurse ..).trans recurse_scrollCall
    exact ((hcalls _ _ entered_scrollCall rfl hlower).1.mp hallowed).2 onlyScrolls_scrollCall
  · exact ((hcalls _ _ .refl rfl lower_spreadCall).2 _ _ _ rfl .refl rfl (List.mem_cons_self ..)
      (.spread rfl)).mpr hspread

end ChainLint.Dispatch
