import ChainLint.Proofs.Concrete.Lines
import ChainLint.Proofs.Dispatch.Independence
import ChainLint.Proofs.Tree.PostOrder
import ChainLint.Report

/-!
# The order of reports

Reports are sorted by the start of the node and by the rule. The sort looks neither at the end of the
node nor at its line. The ends come out in order nevertheless, because the sort is stable and rules find
something only when a node is left (`problems_walk`): where the start and the rule are the same, reports
stay in the order in which nodes are left, and this is the order of their ends (`Nests.pairwise_exits`).
In the same way inner links of a chain come before outer ones. But a chain need not start in one place:
the outer link of `($x.bind()).bind()` starts at the parenthesis, and is reported first
(`reported_outer_first`).

A rule is told once of every node, and answers with one report at most, so that none is there twice.
Lines and columns are in order because they grow with the position (`Concrete.SourceText.location_mono`).
-/

namespace ChainLint

/-- A call or a member access. -/
inductive Node.IsLink : Node → Prop
  | call (site : Site) (callee : Option Node) (arguments : List Node) :
      IsLink (.call site callee arguments)
  | member (site : Site) (object property : Node) (computed : Bool) :
      IsLink (.member site object property computed)

theorem Node.isLink_or (n : Node) : n.IsLink ∨ n.memberCallee? = none ∧ n.object? = none := by
  cases n with
  | call => exact .inl (.call ..)
  | member => exact .inl (.member ..)
  | identifier | literal | other => exact .inr ⟨rfl, rfl⟩

/-- The order in which diagnostics are shown: by the start of the node, the name of the rule and the end
of the node. -/
def Diagnostic.Precedes (a b : Diagnostic) : Prop :=
  a.node.span.start < b.node.span.start ∨
    a.node.span.start = b.node.span.start ∧
      (a.ruleId < b.ruleId ∨ a.ruleId = b.ruleId ∧ a.node.span.stop ≤ b.node.span.stop)

theorem Diagnostic.precedes_of_before {a b : Diagnostic} (h : before a b)
    (htied : tied before a b → a.node.span.stop ≤ b.node.span.stop) : a.Precedes b := by
  rcases before_iff.mp h with hlt | ⟨hstart, hrule⟩
  · exact .inl hlt
  · refine .inr ⟨hstart, ?_⟩
    by_cases hab : a.ruleId = b.ruleId
    · exact .inr ⟨hab, htied (tied_before_iff.mpr ⟨hstart, hab⟩)⟩
    · exact .inl (String.not_le.mp fun hba => hab (String.le_antisymm hrule hba))

namespace Dispatch

variable {v : Vocabulary} {p : Parents} {options : OptionsTable} {rules : List (String × Rule)}
  {root n : Node}

/-! ## What is found at a node -/

/-- The diagnostics of rules when a node is left. -/
def problemsAt (v : Vocabulary) (p : Parents) (options : OptionsTable) (rules : List (String × Rule))
    (n : Node) : List Diagnostic :=
  (foundAt (handlers v p options rules) (.leave n)).filterMap Finding.problem?

/-- What is found at a step is found by a handler of one of the rules. -/
theorem exists_of_mem_foundAt (made : ∀ r ∈ rules, r.2.Made) {step : Step} {d : Diagnostic}
    (hd : d ∈ (foundAt (handlers v p options rules) step).filterMap Finding.problem?) :
    d.ruleId ∈ rules.map (·.1) ∧ d.node = step.node ∧ d.node.IsLink ∧
      (step.selector = "CallExpression:exit" ∨ step.selector = "MemberExpression:exit") := by
  obtain ⟨h, hh, hfound⟩ := List.mem_flatMap.mp (Finding.mem_filterMap_problem?.mp hd)
  obtain ⟨hmem, hselector⟩ := List.mem_filter.mp hh
  obtain ⟨r, hr, hvisitor⟩ := (mem_handlers ..).mp hmem
  -- The rule has one handler, and it answers with one report or none.
  obtain ⟨h', hvisitor', hexit⟩ := (made r hr).exists_handler (contextOf v p options r.1)
  obtain rfl : h = h' := by simpa [hvisitor'] using hvisitor
  rw [beq_iff_eq.mp hselector] at hexit
  obtain ⟨fs, hanswer, hfound⟩ := mem_found_iff.mp hfound
  obtain ⟨hid, hnode⟩ := (made r hr).signs hvisitor hanswer hfound
  have hlink : step.node.IsLink := by
    rcases step.node.isLink_or with hlink | ⟨hcallee, hobject⟩
    · exact hlink
    · rw [(made r hr).silent hvisitor hcallee hobject] at hanswer
      obtain rfl := Except.ok.inj hanswer
      cases hfound
  exact ⟨hid ▸ List.mem_map_of_mem hr, hnode, hnode ▸ hlink, hexit⟩

/-- Nothing is found when a node is entered: a node whose kind is named like the leaving of a call is
no call. -/
theorem foundAt_enter (made : ∀ r ∈ rules, r.2.Made) (n : Node) :
    (foundAt (handlers v p options rules) (.enter n)).filterMap Finding.problem? = [] := by
  refine List.eq_nil_iff_forall_not_mem.mpr fun d hd => ?_
  obtain ⟨-, hnode, hlink, hselector⟩ := exists_of_mem_foundAt made hd
  rw [hnode] at hlink
  simp only [Step.node, Step.selector] at hlink hselector
  cases hlink with
  | call | member => simp [Node.kind] at hselector

/-- What is found on a walk is found when nodes are left. -/
theorem problems_walk (made : ∀ r ∈ rules, r.2.Made) (root : Node) :
    problems v p options rules root.walk = root.exits.flatMap (problemsAt v p options rules) := by
  rw [problems, List.filterMap_flatMap, Node.exits]
  generalize root.walk = steps
  induction steps with
  | nil => rfl
  | cons step steps ih =>
      rw [List.flatMap_cons, ih]
      cases step with
      | enter n => rw [foundAt_enter made, List.nil_append, List.filterMap_cons]
      | leave n => rw [List.filterMap_cons, List.flatMap_cons, problemsAt]

theorem length_problemsAt_le {r : String × Rule} (made : r.2.Made) (n : Node) :
    (problemsAt v p options [r] n).length ≤ 1 := by
  obtain ⟨h, hvisitor, -⟩ := made.exists_handler (contextOf v p options r.1)
  have hhandlers : handlers v p options [r] = [h] := by
    rw [handlers_cons, hvisitor]
    rfl
  rw [problemsAt, foundAt, hhandlers, List.filter_singleton]
  cases h.selector == (Step.leave n).selector with
  | false => exact Nat.zero_le _
  | true =>
      rw [cond_true, List.flatMap_singleton]
      cases hanswer : h.handle n with
      | error e => simp [found, hanswer, Except.toOption, Step.node]
      | ok fs =>
          have hfs : found h n = fs := by
            rw [found, hanswer]
            rfl
          rw [Step.node, hfs]
          rcases made.reports (hvisitor ▸ List.mem_singleton.mpr rfl) hanswer with
            rfl | ⟨d, rfl, -⟩
          · exact Nat.zero_le _
          · exact Nat.le_refl _

/-- At a node every rule finds one problem at most. -/
theorem nodup_problemsAt (made : ∀ r ∈ rules, r.2.Made) (names : (rules.map (·.1)).Nodup)
    (n : Node) : ((problemsAt v p options rules n).map (·.ruleId)).Nodup := by
  refine List.nodup_iff_count_le_one.mpr fun x => ?_
  rw [List.count_eq_countP, List.countP_map, List.countP_eq_length_filter]
  change ((problemsAt v p options rules n).filter (·.ruleId == x)).length ≤ 1
  rw [problemsAt, filter_foundAt v made x]
  rcases filter_name names x with hnone | ⟨r, hone⟩
  · rw [hnone]
    exact Nat.zero_le _
  · have hr : r ∈ rules := List.mem_of_mem_filter (hone ▸ List.mem_singleton.mpr rfl)
    rw [hone]
    exact length_problemsAt_le (made r hr) n

/-- Two problems of one rule are found at nodes in the order in which these are left. -/
theorem pairwise_problems (made : ∀ r ∈ rules, r.2.Made) (names : (rules.map (·.1)).Nodup)
    {R : Node → Node → Prop} (h : root.exits.Pairwise R) :
    (problems v p options rules root.walk).Pairwise fun d e =>
      d.ruleId = e.ruleId → R d.node e.node := by
  rw [problems_walk made, List.pairwise_flatMap]
  refine ⟨fun n _ => ?_, h.imp fun hmn d hd e he _ => ?_⟩
  · exact (List.pairwise_map.mp (nodup_problemsAt made names n)).imp fun hne he => absurd he hne
  · rw [(exists_of_mem_foundAt made hd).2.1, (exists_of_mem_foundAt made he).2.1]
    exact hmn

/-! ## The sorted reports -/

theorem eq_sorted_of_reported {ds : List Diagnostic} (h : reported v root rules options = .ok ds) :
    ds = (problems v (.ofRoot root) options rules root.walk).mergeSort Diagnostic.before := by
  rw [reported_of_answers (answers_of_reported h)] at h
  exact (Except.ok.inj h).symm

section

variable {ds : List Diagnostic} (made : ∀ r ∈ rules, r.2.Made)
  (h : reported v root rules options = .ok ds)

include h

theorem pairwise_before : ds.Pairwise (Diagnostic.before · ·) := by
  rw [eq_sorted_of_reported h]
  exact List.pairwise_mergeSort Diagnostic.before_trans Diagnostic.before_total _

include made

theorem links_of_reported {d : Diagnostic} (hd : d ∈ ds) :
    d.ruleId ∈ rules.map (·.1) ∧ d.node ∈ root.nodes ∧ d.node.IsLink := by
  rw [eq_sorted_of_reported h, List.mem_mergeSort, problems_walk made] at hd
  obtain ⟨n, hn, hd⟩ := List.mem_flatMap.mp hd
  obtain ⟨hid, hnode, hlink, -⟩ := exists_of_mem_foundAt made hd
  exact ⟨hid, hnode ▸ Node.mem_exits.mp hn, hlink⟩

variable (names : (rules.map (·.1)).Nodup)

include names

/-- Where start and rule are the same, reports keep the order in which nodes are left. -/
theorem pairwise_tied {R : Node → Node → Prop} (hexits : root.exits.Pairwise R) :
    ds.Pairwise fun d e => d.node.span.start = e.node.span.start → d.ruleId = e.ruleId →
      R d.node e.node := by
  rw [eq_sorted_of_reported h]
  refine (pairwise_mergeSort_of_tied Diagnostic.before_trans Diagnostic.before_total
    (pairwise_problems made names hexits)).imp fun htied hstart hrule => ?_
  exact htied (Diagnostic.tied_before_iff.mpr ⟨hstart, hrule⟩) hrule

theorem nodup_reported (distinct : root.Distinct) :
    (ds.map fun d => (d.ruleId, d.node.id)).Nodup := by
  have hperm := (List.mergeSort_perm (problems v (.ofRoot root) options rules root.walk)
    Diagnostic.before).map fun d => (d.ruleId, d.node.id)
  rw [eq_sorted_of_reported h]
  refine hperm.nodup_iff.mpr (List.pairwise_map.mpr ?_)
  refine (pairwise_problems made names (Node.pairwise_exits distinct)).imp fun hde heq => ?_
  obtain ⟨hrule, hnode⟩ := Prod.mk.inj heq
  exact (hde hrule).1 hnode

theorem pairwise_precedes (nests : root.Nests) : ds.Pairwise Diagnostic.Precedes := by
  refine (pairwise_before h).imp₂ (fun d e hde htied => ?_)
    (pairwise_tied made h names nests.pairwise_exits)
  refine Diagnostic.precedes_of_before hde fun ht => ?_
  obtain ⟨hstart, hrule⟩ := Diagnostic.tied_before_iff.mp ht
  exact htied hstart hrule

end

/-! ## Lines and columns -/

open Concrete in
theorem pairwise_location {source : String} {cst : Tree}
    (lined : ∀ t, cst.Contains t → OnLine source t.label)
    (hlower : (SourceText.ofString source).lower cst = .ok root) {ds : List Diagnostic}
    (hnodes : ∀ d ∈ ds, d.node ∈ root.nodes)
    (hstart : ds.Pairwise fun d e => d.node.span.start ≤ e.node.span.start) :
    ds.Pairwise fun d e => d.node.location.UpTo e.node.location := by
  rw [SourceText.lower_eq_recurse] at hlower
  refine hstart.imp_of_mem fun {d e} hd he hle => ?_
  obtain ⟨t, _, entered, -, built⟩ := SourceText.exists_origin_of_mem hlower (hnodes d hd)
  obtain ⟨u, _, entered', -, built'⟩ := SourceText.exists_origin_of_mem hlower (hnodes e he)
  exact SourceText.location_mono (lined t (Tree.contains_of_entered entered))
    (lined u (Tree.contains_of_entered entered')) built.site_eq built'.site_eq hle

/-- A line that shows a place, behind the path and in front of what is said of it. -/
def ShowsPlace (path text : String) (place : Location) : Prop :=
  ∃ rest, text = path ++ ":" ++ toString place.line ++ ":" ++ toString place.column ++ "  " ++ rest

/-- The lines of a result show the places of its diagnostics. -/
theorem exists_shown_places (path : String) {ds : List Diagnostic}
    (h : ds.Pairwise fun d e => d.node.location.UpTo e.node.location) :
    ∃ places : List Location,
      List.Forall₂ (ShowsPlace path) (Report.resultLines ⟨path, some ds⟩) places ∧
        places.Pairwise Location.UpTo := by
  refine ⟨ds.map fun d => ⟨d.line, d.column + 1⟩, ?_, ?_⟩
  · rw [Report.resultLines, List.forall₂_map_left_iff, List.forall₂_map_right_iff, List.forall₂_same]
    intro d _
    refine ⟨d.message ++ "  " ++ d.ruleId ++ (if d.fix?.isSome then " (fixable)" else ""), ?_⟩
    simp only [Report.diagnosticLine, String.append_assoc]
  · refine List.pairwise_map.mpr (h.imp fun hde => ?_)
    exact hde.imp_right fun hplace => ⟨hplace.1, Int.add_le_add_right hplace.2 1⟩

/-! ## All together -/

/-- **Reports are in order.** Over a tree of complete calls a run reports; what it reports are calls and
accesses of the tree, under the names of its rules, and no rule reports a node twice. The reports are
sorted by the start of the node and by the rule, and where the ranges of the tree nest by the end of the
node too. Of nodes that one rule reports at one start, none comes after a node that it is below. And if
the tree is that of a text whose lines were counted, the lines that are shown are in the order of the
text. -/
theorem reported_in_order (v : Vocabulary) (options : OptionsTable) {root : Node}
    (distinct : root.Distinct) (complete : root.Complete) {rules : List (String × Rule)}
    (made : ∀ r ∈ rules, r.2.Made) (names : (rules.map (·.1)).Nodup) :
    ∃ ds, reported v root rules options = .ok ds ∧
      (∀ d ∈ ds, d.ruleId ∈ rules.map (·.1) ∧ d.node ∈ root.nodes ∧ d.node.IsLink) ∧
      (ds.map fun d => (d.ruleId, d.node.id)).Nodup ∧
      (root.Nests → ds.Pairwise Diagnostic.Precedes) ∧
      (ds.Pairwise fun d e => d.node.span.start = e.node.span.start → d.ruleId = e.ruleId →
        e.node ∉ d.node.nodes) ∧
      ∀ (source : String) (cst : Concrete.Tree),
        (∀ t, cst.Contains t → Concrete.OnLine source t.label) →
        (Concrete.SourceText.ofString source).lower cst = .ok root → ∀ path,
          ∃ places : List Location,
            List.Forall₂ (ShowsPlace path) (Report.resultLines ⟨path, some ds⟩) places ∧
              places.Pairwise Location.UpTo := by
  obtain ⟨ds, h⟩ := exists_reported v options made complete
  have hlinks := fun d hd => links_of_reported (d := d) made h hd
  refine ⟨_, h, hlinks, nodup_reported made h names distinct,
    fun nests => pairwise_precedes made h names nests, ?_, fun source cst lined hlower path => ?_⟩
  · exact (pairwise_tied made h names (Node.pairwise_exits distinct)).imp
      fun htied hstart hrule => (htied hstart hrule).2
  · have hstart := (pairwise_before h).imp fun {d e} hde =>
      show d.node.span.start ≤ e.node.span.start by
        rcases Diagnostic.before_iff.mp hde with hlt | ⟨heq, -⟩ <;> omega
    exact exists_shown_places path
      (pairwise_location lined hlower (fun d hd => (hlinks d hd).2.1) hstart)

/-! ## A chain with parentheses -/

/-- The callee of the inner call in `($x.bind()).bind();`. -/
def innerCallee : Node :=
  .member ⟨6, ⟨1, 8⟩, ⟨1, 1⟩⟩ (.identifier ⟨7, ⟨1, 3⟩, ⟨1, 1⟩⟩ "$x")
    (.identifier ⟨8, ⟨4, 8⟩, ⟨1, 4⟩⟩ "bind") false

/-- The inner link of the chain, `$x.bind()`. -/
def innerLink : Node := .call ⟨5, ⟨1, 10⟩, ⟨1, 1⟩⟩ (some innerCallee) []

def outerCallee : Node :=
  .member ⟨3, ⟨0, 16⟩, ⟨1, 0⟩⟩ innerLink (.identifier ⟨10, ⟨12, 16⟩, ⟨1, 12⟩⟩ "bind") false

/-- The outer link of the chain, which begins at the parenthesis. -/
def outerLink : Node := .call ⟨2, ⟨0, 18⟩, ⟨1, 0⟩⟩ (some outerCallee) []

/-- The nodes of the text `($x.bind()).bind();`. -/
def chainProgram : Node :=
  .other ⟨0, ⟨0, 19⟩, ⟨1, 0⟩⟩ "Program"
    [.other ⟨1, ⟨0, 19⟩, ⟨1, 0⟩⟩ "ExpressionStatement" [outerLink]]

theorem nodes_chainProgram :
    chainProgram.nodes =
      [chainProgram, .other ⟨1, ⟨0, 19⟩, ⟨1, 0⟩⟩ "ExpressionStatement" [outerLink], outerLink,
        outerCallee, innerLink, innerCallee, .identifier ⟨7, ⟨1, 3⟩, ⟨1, 1⟩⟩ "$x",
        .identifier ⟨8, ⟨4, 8⟩, ⟨1, 4⟩⟩ "bind", .identifier ⟨10, ⟨12, 16⟩, ⟨1, 12⟩⟩ "bind"] := by
  simp [chainProgram, outerLink, outerCallee, innerLink, innerCallee, Node.nodes_eq, Node.children]

section

open Concrete SourceText

def innerTree : Tree :=
  .node ⟨5, none, "call_expression", 1, 10, 0, 1⟩
    [.node ⟨6, some "function", "member_expression", 1, 8, 0, 1⟩
        [.node ⟨7, some "object", "identifier", 1, 3, 0, 1⟩ [],
          .node ⟨8, some "property", "property_identifier", 4, 8, 0, 4⟩ []],
      .node ⟨9, some "arguments", "arguments", 8, 10, 0, 8⟩ []]

def outerTree : Tree :=
  .node ⟨2, none, "call_expression", 0, 18, 0, 0⟩
    [.node ⟨3, some "function", "member_expression", 0, 16, 0, 0⟩
        [.node ⟨4, some "object", "parenthesized_expression", 0, 11, 0, 0⟩ [innerTree],
          .node ⟨10, some "property", "property_identifier", 12, 16, 0, 12⟩ []],
      .node ⟨11, some "arguments", "arguments", 16, 18, 0, 16⟩ []]

/-- The tree of the text. -/
def chainScript : Tree :=
  .node ⟨0, none, "program", 0, 19, 0, 0⟩
    [.node ⟨1, none, "expression_statement", 0, 19, 0, 0⟩ [outerTree]]

theorem onLine_chainScript :
    ∀ t, chainScript.Contains t → OnLine "($x.bind()).bind();" t.label := by decide

theorem lower_chainScript : (ofString "($x.bind()).bind();").lower chainScript = .ok chainProgram := by
  have hinnerCallee : (ofString "($x.bind()).bind();").recurse
      (.node ⟨6, some "function", "member_expression", 1, 8, 0, 1⟩
        [.node ⟨7, some "object", "identifier", 1, 3, 0, 1⟩ [],
          .node ⟨8, some "property", "property_identifier", 4, 8, 0, 4⟩ []]) = .ok innerCallee :=
    recurse_of_operands
      (.cons (recurse_of_operands .nil rfl) (.cons (recurse_of_operands .nil rfl) .nil)) rfl
  have hinner : (ofString "($x.bind()).bind();").recurse innerTree = .ok innerLink :=
    recurse_of_operands (.cons hinnerCallee .nil) rfl
  have houterCallee : (ofString "($x.bind()).bind();").recurse
      (.node ⟨3, some "function", "member_expression", 0, 16, 0, 0⟩
        [.node ⟨4, some "object", "parenthesized_expression", 0, 11, 0, 0⟩ [innerTree],
          .node ⟨10, some "property", "property_identifier", 12, 16, 0, 12⟩ []]) = .ok outerCallee :=
    recurse_of_operands
      (.cons (recurse_of_operands (.cons hinner .nil) rfl)
        (.cons (recurse_of_operands .nil rfl) .nil)) rfl
  have houter : (ofString "($x.bind()).bind();").recurse outerTree = .ok outerLink :=
    recurse_of_operands (.cons houterCallee .nil) rfl
  rw [lower_eq_recurse]
  exact recurse_of_operands (.cons (recurse_of_operands (.cons houter .nil) rfl) .nil) rfl

end

theorem distinct_chainProgram : chainProgram.Distinct := by
  rw [Node.Distinct, nodes_chainProgram]
  decide

theorem complete_chainProgram : chainProgram.Complete := by
  intro site arguments
  rw [nodes_chainProgram]
  simp [chainProgram, outerLink, outerCallee, innerLink, innerCallee]

theorem nests_chainProgram : chainProgram.Nests := by
  rw [Node.Nests, nodes_chainProgram]
  decide

/-- The reports of the chain, and the lines that show them, are in order. -/
theorem reported_in_order_of_chain :
    ∃ ds, reported Settings.standard.vocabulary chainProgram Catalog.rules (fun _ => []) = .ok ds ∧
      ds.Pairwise Diagnostic.Precedes ∧
      ∃ places : List Location,
        List.Forall₂ (ShowsPlace "chain.js") (Report.resultLines ⟨"chain.js", some ds⟩) places ∧
          places.Pairwise Location.UpTo := by
  obtain ⟨ds, hds, -, -, hprecedes, -, hplaces⟩ :=
    reported_in_order Settings.standard.vocabulary (fun _ => []) distinct_chainProgram
      complete_chainProgram Catalog.rules_made Catalog.rules_distinct
  exact ⟨ds, hds, hprecedes nests_chainProgram,
    hplaces "($x.bind()).bind();" chainScript onLine_chainScript lower_chainScript "chain.js"⟩

theorem innerLink_mem_outerLink : innerLink ∈ outerLink.nodes := by
  simp [outerLink, outerCallee, innerLink, innerCallee, Node.nodes_eq, Node.children]

theorem exists_reported_links :
    ∃ ds, reported Settings.standard.vocabulary chainProgram Catalog.rules (fun _ => []) = .ok ds ∧
      ∃ outer ∈ ds, ∃ inner ∈ ds, outer.ruleId = "no-bind" ∧ inner.ruleId = "no-bind" ∧
        outer.node = outerLink ∧ inner.node = innerLink := by
  have hrule : ("no-bind", .collectionMethod ["bind", "unbind"] (Catalog.made Catalog.bindMessage) {}) ∈
      Catalog.rules := by simp [Catalog.rules]
  have link : ∀ call callee : Node, call ∈ chainProgram.nodes →
      Rule.calledMethod? ["bind", "unbind"] call = some (callee, "bind") →
      callee.object?.any Settings.standard.vocabulary.isConstructor = false →
      Settings.standard.vocabulary.chain callee true = true →
      ∃ ds d, reported Settings.standard.vocabulary chainProgram Catalog.rules (fun _ => []) = .ok ds ∧
        d ∈ ds ∧ d.ruleId = "no-bind" ∧ d.node = call := by
    intro call callee hcall hcalled hconstructor hchain
    obtain ⟨ds, d, hds, hd, hreport⟩ := exists_reported_call _ (fun _ => [])
      Catalog.rules_made distinct_chainProgram complete_chainProgram hrule hcall hcalled
      hconstructor rfl hchain
    obtain rfl := Finding.problem.inj hreport
    exact ⟨ds, _, hds, hd, rfl, rfl⟩
  obtain ⟨ds, outer, hds, houter, hid, hnode⟩ := link outerLink outerCallee
    (by simp [nodes_chainProgram]) rfl (by decide +kernel) (by decide +kernel)
  obtain ⟨es, inner, hes, hinner, hid', hnode'⟩ := link innerLink innerCallee
    (by simp [nodes_chainProgram]) rfl (by decide +kernel) (by decide +kernel)
  obtain rfl := Except.ok.inj (hds.symm.trans hes)
  exact ⟨ds, hds, outer, houter, inner, hinner, hid, hid', hnode, hnode'⟩

/-- The outer link comes first: the two do not start at the same place. -/
theorem reported_outer_first :
    (Concrete.SourceText.ofString "($x.bind()).bind();").lower chainScript = .ok chainProgram ∧
      chainProgram.Distinct ∧ chainProgram.Complete ∧ chainProgram.Nests ∧
      innerLink ∈ outerLink.nodes ∧
      ∃ ds, reported Settings.standard.vocabulary chainProgram Catalog.rules (fun _ => []) = .ok ds ∧
        (∃ outer ∈ ds, ∃ inner ∈ ds, outer.ruleId = inner.ruleId ∧ outer.node = outerLink ∧
          inner.node = innerLink) ∧
        ¬ ds.Pairwise fun d e => d.ruleId = e.ruleId → e.node ∉ d.node.nodes := by
  obtain ⟨ds, hds, outer, houter, inner, hinner, hid, hid', hnode, hnode'⟩ := exists_reported_links
  refine ⟨lower_chainScript, distinct_chainProgram, complete_chainProgram, nests_chainProgram,
    innerLink_mem_outerLink, ds, hds, ⟨outer, houter, inner, hinner, hid.trans hid'.symm, hnode, hnode'⟩, fun hinnerFirst => ?_⟩
  have hne : outer ≠ inner := by
    rintro rfl
    exact absurd (congrArg Node.id (hnode.symm.trans hnode')) (by decide)
  -- In one order the inner link would come after the outer one, in the other before its start.
  let R : Diagnostic → Diagnostic → Prop := fun d e =>
    (d.ruleId = e.ruleId → e.node ∉ d.node.nodes) ∧ Diagnostic.before d e
  have hR : ds.Pairwise R := hinnerFirst.and (pairwise_before hds)
  have : Std.Symm fun d e => R d e ∨ R e d := ⟨fun _ _ => Or.symm⟩
  rcases (hR.imp (S := fun d e => R d e ∨ R e d) .inl).forall houter hinner hne with hR | hR
  · exact hR.1 (hid.trans hid'.symm) (hnode ▸ hnode' ▸ innerLink_mem_outerLink)
  · have hbefore := Diagnostic.before_iff.mp hR.2
    rw [hnode, hnode'] at hbefore
    rcases hbefore with hstart | ⟨hstart, -⟩ <;> exact absurd hstart (by decide)

end Dispatch

end ChainLint
