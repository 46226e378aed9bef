import ChainLint.Proofs.Dispatch.ReportOrder

/-!
# Statements are linted apart

A run over a program has one table of parents, one list of handlers and one list of findings for all
statements. What it reports is nevertheless put together from runs over the single statements, each of
which fills a table of its own (`reported_statements`). Three things have to fit for this. On the nodes
of a statement the large table answers like the small one, because a node is the child of one node only
(`isCallee_subtree`). The walk over a program is the walks over its statements in a row. And sorting the
pieces before they are sorted together changes nothing (`mergeSort_flatten`).

The statements may hang below a node of any kind, even one that is named like the leaving of a call:
handlers that are told of such a node find no call in it.
-/

namespace ChainLint

/-! ## The table of a part -/

section

variable {root n m : Node}

variable (distinct : root.Distinct) (hn : n ∈ root.nodes) (uncalled : ¬ root.Called n)

include distinct hn uncalled

theorem Node.called_iff_of_mem (hm : m ∈ n.nodes) : root.Called m ↔ n.Called m := by
  constructor
  · rintro ⟨site, arguments, hcall⟩
    rcases Node.eq_or_exists_parent hm with rfl | ⟨p, hp, hmp⟩
    · exact absurd ⟨site, arguments, hcall⟩ uncalled
    -- The call is the one node that has `m` for a child, and that one is below `n`.
    · have hchild : m ∈ (Node.call site (some m) arguments).children := List.mem_cons_self ..
      obtain rfl := distinct.parent_unique hcall (Node.nodes_subset hn hp) hchild hmp rfl
      exact ⟨site, arguments, hp⟩
  · rintro ⟨site, arguments, hcall⟩
    exact ⟨site, arguments, Node.nodes_subset hn hcall⟩

theorem Parents.isCallee_subtree (hm : m ∈ n.nodes) :
    (Parents.ofRoot root).isCallee m = (Parents.ofRoot n).isCallee m := by
  rw [Bool.eq_iff_iff, Parents.isCallee_ofRoot_iff distinct (Node.nodes_subset hn hm),
    Parents.isCallee_ofRoot_iff (distinct.of_mem hn) hm]
  exact Node.called_iff_of_mem distinct hn uncalled hm

end

namespace Vocabulary

variable {p p' : Parents} {n : Node}

/-- Of a table the classifier asks which nodes of the chain are called. -/
theorem peel_congr (v : Vocabulary) (h : ∀ m ∈ n.nodes, p.isCallee m = p'.isCallee m) :
    v.peel p n = v.peel p' n := by
  induction n using Node.induct with
  | step n ih =>
      have hself := h n n.self_mem_nodes
      have hbelow : ∀ c ∈ n.children, v.peel p c = v.peel p' c := by
        intro c hc
        have hsub := Node.nodes_subset (Node.child_mem_nodes n.self_mem_nodes hc)
        exact ih c hc fun m hm => h m (hsub hm)
      cases n with
      | identifier site name => rw [peel, peel, hself]
      | literal | other => rw [peel, peel]
      | member site object property computed =>
          rw [peel_member, peel_member, hself, hbelow object (List.mem_cons_self ..)]
      | call site callee arguments =>
          rw [peel, peel]
          cases callee with
          | none => rw [peelOption, peelOption]
          | some callee => rw [peelOption, peelOption, hbelow callee (List.mem_cons_self ..)]

theorem classify_congr (v : Vocabulary) (h : ∀ m ∈ n.nodes, p.isCallee m = p'.isCallee m)
    (origin : Origin) : v.classify p origin (some n) = v.classify p' origin (some n) := by
  have hpeel := v.peel_congr h
  cases origin with
  | collection => exact hpeel
  | utility => rfl
  | either => simp only [classify, peelOption, hpeel]

end Vocabulary

/-! ## Sorting in pieces -/

theorem mergeSort_flatten {α : Type} {le : α → α → Bool} (trans : ∀ a b c, le a b → le b c → le a c)
    (total : ∀ a b, le a b || le b a) (ls : List (List α)) :
    (ls.map (List.mergeSort · le)).flatten.mergeSort le = ls.flatten.mergeSort le := by
  refine mergeSort_eq_of_filter_tied trans total fun a => ?_
  have hpiece : ∀ l ∈ ls, (l.mergeSort le).filter (tied le a) = l.filter (tied le a) :=
    fun l _ => filter_tied_mergeSort trans total l a
  rw [List.filter_flatten, List.filter_flatten, List.map_map]
  exact congrArg List.flatten (List.map_congr_left hpiece)

namespace Dispatch

variable {v : Vocabulary} {p : Parents} {options : OptionsTable} {rules : List (String × Rule)}

theorem report_flatten (findings : List (List Finding)) :
    report findings.flatten = (findings.map report).flatten.mergeSort Diagnostic.before := by
  have hreport : report = (List.mergeSort · Diagnostic.before) ∘ List.filterMap Finding.problem? := rfl
  rw [hreport, ← List.map_map, mergeSort_flatten Diagnostic.before_trans Diagnostic.before_total,
    Function.comp_apply, List.filterMap_flatten]

/-! ## The walk over a program -/

theorem onWalk_eq (hs : List Handler) (steps : List Step) :
    onWalk hs steps = (steps.mapM (atStep hs)).map List.flatten := by
  rw [onWalk]
  cases steps.mapM (atStep hs) <;> rfl

section

variable (made : ∀ r ∈ rules, r.2.Made) {site : Site} {kind : String} {statements : List Node}

include made

/-- No rule says anything of a node that is no call and no access. -/
theorem atStep_other {step : Step} (hstep : step.node = .other site kind statements) :
    atStep (handlers v p options rules) step = .ok [] := by
  have hsilent : ∀ h ∈ (handlers v p options rules).filter (·.selector == step.selector),
      h.handle step.node = .ok [] := by
    intro h hh
    obtain ⟨r, hr, hvisitor⟩ := (mem_handlers ..).mp (List.mem_of_mem_filter hh)
    rw [hstep]
    exact (made r hr).silent hvisitor rfl rfl
  rw [atStep, mapM_eq_ok_map (g := fun _ => []) hsilent, ok_bind]
  exact congrArg Except.ok (List.flatten_eq_nil_iff.mpr fun l hl => (List.eq_of_mem_map_const hl))

theorem onWalk_other :
    onWalk (handlers v p options rules) (Node.other site kind statements).walk =
      onWalk (handlers v p options rules) (statements.flatMap Node.walk) := by
  have henter : atStep (handlers v p options rules) (.enter (.other site kind statements)) = .ok [] :=
    atStep_other made rfl
  have hleave : atStep (handlers v p options rules) (.leave (.other site kind statements)) = .ok [] :=
    atStep_other made rfl
  rw [Node.walk_eq, Node.children, onWalk_eq, onWalk_eq, List.mapM_cons, henter, ok_bind,
    List.mapM_append, List.mapM_cons, hleave]
  cases (statements.flatMap Node.walk).mapM (atStep (handlers v p options rules)) with
  | error e => rfl
  | ok fss =>
      have hflatten : ([] :: (fss ++ [[]])).flatten = fss.flatten := by simp
      exact congrArg Except.ok hflatten

end

/-! ## Programs -/

section

variable (made : ∀ r ∈ rules, r.2.Made) {site : Site} {kind : String} {statements : List Node}
  (distinct : (Node.other site kind statements).Distinct)

include made distinct

/-- The handlers of the run find in a statement what they find in it when it is all there is. -/
theorem onWalk_statement {s : Node} (hs : s ∈ statements) :
    onWalk (handlers v (.ofRoot (.other site kind statements)) options rules) s.walk =
      onWalk (handlers v (.ofRoot s) options rules) s.walk := by
  have hself := Node.self_mem_nodes (.other site kind statements)
  have hmem : s ∈ (Node.other site kind statements).nodes := Node.child_mem_nodes hself hs
  -- The parent of a statement is the program, and this is no call.
  have uncalled : ¬ (Node.other site kind statements).Called s := by
    rintro ⟨place, arguments, hcall⟩
    have hchild : s ∈ (Node.call place (some s) arguments).children := List.mem_cons_self ..
    cases distinct.parent_unique hcall hself hchild hs rfl
  have hcallee : ∀ m ∈ s.nodes, (Parents.ofRoot (.other site kind statements)).isCallee m =
      (Parents.ofRoot s).isCallee m :=
    fun m hm => Parents.isCallee_subtree distinct hmem uncalled hm
  have alike : ∀ r ∈ rules,
      (contextOf v (.ofRoot (.other site kind statements)) options r.1).Alike
        (contextOf v (.ofRoot s) options r.1) := fun r _ => ⟨rfl, fun _ => rfl, rfl, rfl⟩
  refine onWalk_congr v _ options made alike fun step hstep => ?_
  have hnode := Node.node_mem_nodes hstep
  refine ⟨hcallee step.node hnode, fun origin m hm => ?_⟩
  have hsub := Node.nodes_subset (Node.nodes_subset hnode hm)
  exact v.classify_congr (fun k hk => hcallee k (hsub hk)) origin

/-- A run over a program is the sorted concatenation of the runs over its statements, or all fail. -/
theorem reported_other :
    reported v (.other site kind statements) rules options =
      (statements.mapM fun s => reported v s rules options).map
        fun singles => singles.flatten.mergeSort Diagnostic.before := by
  have hwalk : onWalk (handlers v (.ofRoot (.other site kind statements)) options rules)
      (statements.flatMap Node.walk) =
        (statements.mapM fun s => onWalk (handlers v (.ofRoot s) options rules) s.walk).map
          List.flatten := by
    rw [onWalk_eq, flatten_mapM_flatMap]
    congr 1
    refine mapM_congr fun s hs => ?_
    rw [← onWalk_eq, onWalk_statement made distinct hs]
  have hsingles : (statements.mapM fun s => reported v s rules options) =
      (statements.mapM fun s => onWalk (handlers v (.ofRoot s) options rules) s.walk).map
        (List.map report) := by
    simp only [reported_eq]
    exact mapM_map_result ..
  rw [reported_eq, onWalk_other made, hwalk, hsingles]
  cases statements.mapM fun s => onWalk (handlers v (.ofRoot s) options rules) s.walk with
  | error e => rfl
  | ok fss => exact congrArg Except.ok (report_flatten fss)

end

/-! ## The diagnostics of one statement -/

section

variable {site : Site} {kind : String} {s : Node}

theorem id_notMem_of_beside {left right : List Node}
    (distinct : (Node.other site kind (left ++ s :: right)).Distinct) {t : Node}
    (ht : t ∈ left ++ right) {m : Node} (hm : m ∈ t.nodes) : m.id ∉ s.nodes.map Node.id := by
  intro hid
  obtain ⟨k, hk, e⟩ := List.mem_map.mp hid
  obtain ⟨-, hright, hleft⟩ := List.pairwise_append.mp distinct.disjoint_children
  rcases List.mem_append.mp ht with ht | ht
  · exact hleft t ht s (List.mem_cons_self ..) m hm k hk e.symm
  · exact List.rel_of_pairwise_cons hright ht k hk m hm e

/-- Nothing that is reported of other statements is at a node of this one. -/
theorem filter_reported_beside (made : ∀ r ∈ rules, r.2.Made) {left right : List Node}
    (distinct : (Node.other site kind (left ++ s :: right)).Distinct) {ts : List Node}
    (hts : ∀ t ∈ ts, t ∈ left ++ right) {singles : List (List Diagnostic)}
    (h : (ts.mapM fun t => reported v t rules options) = .ok singles) :
    singles.flatten.filter (fun d => d.node.id ∈ s.nodes.map Node.id) = [] := by
  rw [List.filter_eq_nil_iff]
  intro d hd
  obtain ⟨es, hmem, hd⟩ := List.mem_flatten.mp hd
  obtain ⟨t, ht, hes⟩ := exists_of_mem_mapM h hmem
  have hnode := (links_of_reported made hes hd).2.1
  simpa using id_notMem_of_beside distinct (hts t ht) hnode

/-- What is reported at the nodes of a statement is what is reported of it alone. -/
theorem filter_reported_other (made : ∀ r ∈ rules, r.2.Made) {statements : List Node}
    (distinct : (Node.other site kind statements).Distinct) (hs : s ∈ statements)
    {ds single : List Diagnostic} (hsingle : reported v s rules options = .ok single)
    (hds : reported v (.other site kind statements) rules options = .ok ds) :
    ds.filter (fun d => d.node.id ∈ s.nodes.map Node.id) = single := by
  obtain ⟨left, right, rfl⟩ := List.append_of_mem hs
  have hself : single.filter (fun d => d.node.id ∈ s.nodes.map Node.id) = single := by
    refine List.filter_eq_self.mpr fun d hd => ?_
    have hnode := (links_of_reported made hsingle hd).2.1
    exact decide_eq_true (List.mem_map_of_mem hnode)
  rw [reported_other made distinct, List.mapM_append, List.mapM_cons, hsingle] at hds
  cases hleft : left.mapM fun t => reported v t rules options with
  | error e =>
      rw [hleft] at hds
      cases hds
  | ok before =>
      cases hright : right.mapM fun t => reported v t rules options with
      | error e =>
          rw [hleft, hright] at hds
          cases hds
      | ok after =>
          rw [hleft, hright] at hds
          obtain rfl := Except.ok.inj hds
          rw [filter_mergeSort Diagnostic.before_trans Diagnostic.before_total, List.flatten_append,
            List.flatten_cons, List.filter_append, List.filter_append, hself,
            filter_reported_beside made distinct (fun t => List.mem_append_left _) hleft,
            filter_reported_beside made distinct (fun t => List.mem_append_right _) hright,
            List.nil_append, List.append_nil]
          exact List.mergeSort_of_pairwise (pairwise_before hsingle)

end

/-- **Linting distributes over statements.** A run over statements below a node of any kind that is no
call and no access is the sorted concatenation of the runs over the statements, each with a tree and a
table of parents of its own. Where all calls have a callee the runs succeed, and what the large one
reports at the nodes of a statement is what the run over this statement reports. -/
theorem reported_statements (v : Vocabulary) (options : OptionsTable) (made : ∀ r ∈ rules, r.2.Made)
    {site : Site} {kind : String} {statements : List Node}
    (distinct : (Node.other site kind statements).Distinct) :
    (reported v (.other site kind statements) rules options =
      (statements.mapM fun s => reported v s rules options).map
        fun singles => singles.flatten.mergeSort Diagnostic.before) ∧
    ((∀ s ∈ statements, s.Complete) →
      ∃ singles, (statements.mapM fun s => reported v s rules options) = .ok singles ∧
        reported v (.other site kind statements) rules options =
          .ok (singles.flatten.mergeSort Diagnostic.before)) ∧
    ∀ ds, reported v (.other site kind statements) rules options = .ok ds →
      ∀ s ∈ statements, ∀ single, reported v s rules options = .ok single →
        ds.filter (fun d => d.node.id ∈ s.nodes.map Node.id) = single := by
  refine ⟨reported_other made distinct, fun complete => ?_, fun ds hds s hs single hsingle => ?_⟩
  · obtain ⟨singles, hsingles⟩ : ∃ singles,
        (statements.mapM fun s => reported v s rules options) = .ok singles :=
      exists_mapM_eq_ok fun s hs => exists_reported v options made (complete s hs)
    refine ⟨singles, hsingles, ?_⟩
    rw [reported_other made distinct, hsingles]
    rfl
  · exact filter_reported_other made distinct hs hsingle hds

/-- The call `$x.size()`, with a number from which its nodes are counted. -/
def sizeStatement (first : Nat) : Node :=
  .call (.ofId first)
    (some (.member (.ofId (first + 1)) (.identifier (.ofId (first + 2)) "$x")
      (.identifier (.ofId (first + 3)) "size") false))
    []

theorem nodes_sizeStatement (first : Nat) :
    (sizeStatement first).nodes =
      [sizeStatement first,
        .member (.ofId (first + 1)) (.identifier (.ofId (first + 2)) "$x")
          (.identifier (.ofId (first + 3)) "size") false,
        .identifier (.ofId (first + 2)) "$x", .identifier (.ofId (first + 3)) "size"] := by
  simp [sizeStatement, Node.nodes_eq, Node.children]

theorem complete_sizeStatement (first : Nat) : (sizeStatement first).Complete := by
  intro site arguments
  rw [nodes_sizeStatement]
  simp [sizeStatement]

theorem distinct_sizeStatement (first : Nat) : (sizeStatement first).Distinct := by
  rw [Node.Distinct, nodes_sizeStatement]
  simp [sizeStatement, Node.id, Node.site, Site.ofId]

/-- Two statements below a node whose kind is named like the leaving of a call. -/
def sizeTwice : Node := .other (.ofId 0) "CallExpression:exit" [sizeStatement 1, sizeStatement 5]

theorem distinct_sizeTwice : sizeTwice.Distinct := by
  rw [Node.Distinct, sizeTwice, Node.nodes_eq]
  simp only [Node.children, List.flatMap_cons, List.flatMap_nil, nodes_sizeStatement]
  decide

def sizeRules : List (String × Rule) := [("sizes", .collectionMethod ["size"] none {})]

theorem sizeRules_made : ∀ r ∈ sizeRules, r.2.Made :=
  List.forall_mem_singleton.mpr (.collectionMethod ..)

theorem exists_reported_sizeStatement (first : Nat) :
    ∃ ds, reported Settings.standard.vocabulary (sizeStatement first) sizeRules (fun _ => []) = .ok ds ∧
      sizeStatement first ∈ ds.map (·.node) := by
  have hname : Settings.standard.vocabulary.isVariable "$x" = true := by decide +kernel
  obtain ⟨ds, d, hds, hd, hreport⟩ := exists_reported_call Settings.standard.vocabulary (fun _ => [])
    sizeRules_made (distinct_sizeStatement first) (complete_sizeStatement first)
    (List.mem_singleton.mpr rfl) (Node.self_mem_nodes _) rfl rfl rfl
    (by simp [Vocabulary.chain, hname])
  obtain rfl := Finding.problem.inj hreport
  exact ⟨ds, hds, List.mem_map_of_mem hd⟩

/-- The two diagnostics agree in position and rule, and keep the order of the statements. -/
theorem reported_sizeTwice :
    sizeTwice.Distinct ∧ (∀ s ∈ [sizeStatement 1, sizeStatement 5], s.Complete) ∧
      ∃ first second,
        reported Settings.standard.vocabulary (sizeStatement 1) sizeRules (fun _ => []) = .ok first ∧
        reported Settings.standard.vocabulary (sizeStatement 5) sizeRules (fun _ => []) = .ok second ∧
        sizeStatement 1 ∈ first.map (·.node) ∧ sizeStatement 5 ∈ second.map (·.node) ∧
        ∃ ds, reported Settings.standard.vocabulary sizeTwice sizeRules (fun _ => []) = .ok ds ∧
          ds = (first ++ second).mergeSort Diagnostic.before ∧
          ds.filter (fun d => d.node.id ∈ (sizeStatement 1).nodes.map Node.id) = first ∧
          ds.filter (fun d => d.node.id ∈ (sizeStatement 5).nodes.map Node.id) = second := by
  have complete : ∀ s ∈ [sizeStatement 1, sizeStatement 5], s.Complete := by
    simp [complete_sizeStatement]
  obtain ⟨first, hfirst, hnodeFirst⟩ := exists_reported_sizeStatement 1
  obtain ⟨second, hsecond, hnodeSecond⟩ := exists_reported_sizeStatement 5
  obtain ⟨-, hruns, hparts⟩ := reported_statements Settings.standard.vocabulary (fun _ => [])
    sizeRules_made distinct_sizeTwice
  obtain ⟨singles, hsingles, hds⟩ := hruns complete
  have hpair : singles = [first, second] := by
    rw [List.mapM_cons, hfirst, ok_bind, List.mapM_cons, hsecond] at hsingles
    exact (Except.ok.inj hsingles).symm
  have hflatten : [first, second].flatten = first ++ second := by simp
  rw [hpair, hflatten] at hds
  exact ⟨distinct_sizeTwice, complete, first, second, hfirst, hsecond, hnodeFirst, hnodeSecond, _, hds,
    rfl, hparts _ hds _ (by simp) _ hfirst, hparts _ hds _ (by simp) _ hsecond⟩

end Dispatch

end ChainLint
