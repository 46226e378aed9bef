import ChainLint.Proofs.Chain.Returns
import ChainLint.Proofs.Dispatch.Receivers
import ChainLint.Proofs.Dispatch.Uses

/-!
# Rules with handlers of their own agree with the family

The rules on animations and on ajax events have handlers of their own. They ask the classifier about the
call, while the family of rules on methods of collections asks about the callee and leaves calls on the
constructor alone. For a method that keeps the collection these are the same question
(`classify_call_of_keeps`), so that the two rules report what the family reports for their methods
(`reported_as_family`), unless a plugin has the name of a method.

A rule reports the nodes that it selects, sorted by their start (`map_node_reported`). Hence rules are
compared by what they select, and the order of their reports follows.
-/

namespace ChainLint

/-! ## Selections -/

/-- Two selections that exclude each other share what either selects, sorted or not. -/
theorem interleaves_mergeSort {α : Type} {le : α → α → Bool}
    (trans : ∀ a b c, le a b → le b c → le a c) (total : ∀ a b, le a b || le b a) {p q r : α → Bool}
    (either : ∀ x, r x = (p x || q x)) (exclude : ∀ x, p x = true → q x = false) (l : List α) :
    Interleaves ((l.filter p).mergeSort le) ((l.filter q).mergeSort le)
      ((l.filter r).mergeSort le) := by
  have hleft : l.filter p = (l.filter r).filter p := by
    rw [List.filter_filter]
    refine List.filter_congr fun x _ => ?_
    cases hp : p x <;> simp [either, hp]
  have hright : l.filter q = (l.filter r).filter fun x => !p x := by
    rw [List.filter_filter]
    refine List.filter_congr fun x _ => ?_
    cases hp : p x with
    | false => simp [either, hp]
    | true => simp [exclude x hp]
  rw [hleft, hright, ← filter_mergeSort trans total p (l.filter r),
    ← filter_mergeSort trans total (fun x => !p x) (l.filter r)]
  exact interleaves_filter p _

namespace Catalog

/-- The first argument is a text that names an ajax event. -/
def BindsAjaxEvent (call : Node) : Prop :=
  ∃ event ∈ ajaxEvents, ∃ place rest,
    call.arguments = .literal place (.text (Text.CodePoint.ofString event)) :: rest

theorem ajaxLiteral?_eq_some_iff {n : Node} {event : String} :
    ajaxLiteral? n = some event ↔
      event ∈ ajaxEvents ∧ ∃ place, n = .literal place (.text (Text.CodePoint.ofString event)) := by
  constructor
  · intro h
    unfold ajaxLiteral? at h
    split at h
    · rename_i place value
      obtain ⟨htext, hmem⟩ := Option.filter_eq_some_iff.mp h
      refine ⟨List.contains_iff_mem.mp hmem, place, ?_⟩
      cases value with
      | text points => rw [Text.CodePoint.toString?_eq_some_iff.mp htext]
      | integer | real | boolean | null => cases htext
    · cases h
  · rintro ⟨hmem, place, rfl⟩
    simp [ajaxLiteral?, LiteralValue.string?, Text.CodePoint.toString?_ofString, hmem]

theorem isSome_ajaxLiteral?_iff {call : Node} :
    (call.arguments.head?.bind ajaxLiteral?).isSome = true ↔ BindsAjaxEvent call := by
  rw [Option.isSome_iff_exists]
  constructor
  · rintro ⟨event, h⟩
    obtain ⟨first, hfirst, h⟩ := Option.bind_eq_some_iff.mp h
    obtain ⟨hmem, place, rfl⟩ := ajaxLiteral?_eq_some_iff.mp h
    obtain ⟨rest, harguments⟩ := List.head?_eq_some_iff.mp hfirst
    exact ⟨event, hmem, place, rest, harguments⟩
  · rintro ⟨event, hmem, place, rest, harguments⟩
    refine ⟨event, ?_⟩
    rw [harguments, List.head?_cons, Option.bind_some]
    exact ajaxLiteral?_eq_some_iff.mpr ⟨hmem, place, rfl⟩

instance : DecidablePred BindsAjaxEvent := fun _ => decidable_of_iff _ isSome_ajaxLiteral?_iff

theorem ajaxEvent?_of_called {call callee : Node} {name : String}
    (hcallee : call.memberCallee? = some callee) (hname : callee.propertyName? = some name) :
    (ajaxEvent? call).isSome = true ↔
      name ∈ ajaxEvents ∨ name = "on" ∧ BindsAjaxEvent call := by
  simp only [ajaxEvent?, hcallee, hname, ← isSome_ajaxLiteral?_iff]
  by_cases hmem : name ∈ ajaxEvents
  · simp [hmem]
  · rw [if_neg (by simpa using hmem)]
    by_cases hon : name = "on"
    · subst hon
      simp [hmem]
    · simp [hon, hmem]

end Catalog

namespace Rule

/-! ## The rules with handlers of their own -/

theorem reportsCalls_noAnimate (c : Context) :
    ReportsCalls Catalog.noAnimate c ["animate"] fun n _ =>
      (Catalog.allowsScroll c && n.arguments.head?.any Catalog.onlyScrolls) = false ∧
        c.classify .collection n = .ok true := by
  refine reportsCalls_of_called rfl (fun n hnone => ?_) fun n callee name hcalled => ?_
  · refine if_pos fun hname => ?_
    obtain ⟨callee, hcallee, hname⟩ := Option.bind_eq_some_iff.mp hname
    exact calledMethod?_eq_none_iff.mp hnone callee _ hcallee hname (List.mem_singleton.mpr rfl)
  · obtain ⟨hcallee, hname, hmem⟩ := calledMethod?_eq_some hcalled
    obtain rfl := List.mem_singleton.mp hmem
    have hanimate : ¬ n.memberCallee?.bind Node.propertyName? ≠ some "animate" := by
      simp [hcallee, hname]
    rw [if_neg hanimate]
    cases Catalog.allowsScroll c && n.arguments.head?.any Catalog.onlyScrolls with
    | true => simp
    | false => exact exists_reportIf_iff.trans (by simp)

theorem reportsCalls_noAjaxEvents (c : Context) :
    ReportsCalls Catalog.noAjaxEvents c ("on" :: Catalog.ajaxEvents) fun n _ =>
      (Catalog.ajaxEvent? n).isSome = true ∧ c.classify .collection n = .ok true := by
  refine reportsCalls_of_called rfl (fun n hnone => ?_) fun n callee name hcalled => ?_
  · have hevent : Catalog.ajaxEvent? n = none := by
      cases hcallee : n.memberCallee? with
      | none => simp only [Catalog.ajaxEvent?, hcallee]
      | some callee =>
          cases hname : callee.propertyName? with
          | none => simp only [Catalog.ajaxEvent?, hcallee, hname]
          | some name =>
              have hmem := calledMethod?_eq_none_iff.mp hnone callee name hcallee hname
              rw [List.mem_cons, not_or] at hmem
              rw [← Option.not_isSome_iff_eq_none, Catalog.ajaxEvent?_of_called hcallee hname]
              rintro (h | ⟨h, -⟩)
              · exact hmem.2 h
              · exact hmem.1 h
    rw [hevent]
  · cases Catalog.ajaxEvent? n with
    | none => simp
    | some event => exact exists_reportIf_iff.trans (by simp)

end Rule

namespace Dispatch

variable {v : Vocabulary} {root : Node} {options : OptionsTable} {id : String} {rule : Rule}
  {names : List String}

/-! ## Agreement -/

section

variable {call callee : Node} {name : String}

/-- A call of a method that keeps the collection is classified as the family classifies its callee. -/
theorem classify_call_of_keeps (p : Parents) (hcalled : Rule.calledMethod? names call = some (callee, name))
    (keeps : Methods.Keeps name) (plain : v.plugin? name = none) :
    v.classify p .collection (some call) = .ok true ↔
      callee.object?.any v.isConstructor = false ∧ v.classify p .collection (some callee) = .ok true := by
  obtain ⟨hcallee, hname, -⟩ := Rule.calledMethod?_eq_some hcalled
  rw [Vocabulary.classify_call_iff p hcallee hname]
  simp [Vocabulary.not_leaves_of_keeps keeps plain]

end

variable (v root) in
/-- What the family of rules on methods of collections selects under a name without options. -/
def FamilySelects (names : List String) : Node → Prop :=
  Rule.Selects names fun _ callee =>
    callee.object?.any v.isConstructor = false ∧
      v.classify (.ofRoot root) .collection (some callee) = .ok true

open Classical in
theorem map_node_reported_collectionMethod {message : Option Message} {o : RuleOptions}
    (plain : options id = []) {ds : List Diagnostic}
    (h : reported v root [(id, .collectionMethod names message o)] options = .ok ds) :
    ds.map (·.node) = (root.exits.filter (FamilySelects v root names)).mergeSort Node.startsFirst := by
  have forbids : ∀ n, Rule.allows (contextOf v (.ofRoot root) options id) n = false :=
    Rule.allows_of_plain plain
  rw [map_node_reported (.collectionMethod ..) (Rule.reportsCalls_collectionMethod _) h]
  simp only [FamilySelects, forbids, true_and]
  rfl

theorem reported_noAnimate_eq_family (unplugged : v.plugin? "animate" = none) {onAnimate onMethod : String}
    (plain : options onAnimate = []) (plain' : options onMethod = []) {message : Option Message}
    {o : RuleOptions} {as cs : List Diagnostic}
    (has : reported v root [(onAnimate, Catalog.noAnimate)] options = .ok as)
    (hcs : reported v root [(onMethod, .collectionMethod ["animate"] message o)] options = .ok cs) :
    as.map (·.node) = cs.map (·.node) := by
  have noScroll : Catalog.allowsScroll (contextOf v (.ofRoot root) options onAnimate) = false := by
    simp only [Catalog.allowsScroll, Context.option?, contextOf, plain]
  rw [map_node_reported .noAnimate (Rule.reportsCalls_noAnimate _) has,
    map_node_reported_collectionMethod plain' hcs]
  congr 1
  refine List.filter_congr fun n _ => decide_eq_decide.mpr ?_
  simp only [FamilySelects, Rule.Selects, noScroll, Bool.false_and, true_and]
  refine exists₂_congr fun callee name => and_congr_right fun hcalled => ?_
  obtain rfl := List.mem_singleton.mp (Rule.calledMethod?_eq_some hcalled).2.2
  exact classify_call_of_keeps _ hcalled (by decide) unplugged

theorem keeps_of_ajax : ∀ name ∈ "on" :: Catalog.ajaxEvents, Methods.Keeps name := by
  decide

/-- The rule on ajax events selects the methods of that name, and some of the calls of `on`. -/
theorem selects_noAjaxEvents_iff (unplugged : ∀ name ∈ "on" :: Catalog.ajaxEvents, v.plugin? name = none)
    {n : Node} :
    Rule.Selects ("on" :: Catalog.ajaxEvents) (fun n _ => (Catalog.ajaxEvent? n).isSome = true ∧
        v.classify (.ofRoot root) .collection (some n) = .ok true) n ↔
      FamilySelects v root Catalog.ajaxEvents n ∨
        FamilySelects v root ["on"] n ∧ Catalog.BindsAjaxEvent n := by
  by_cases hnamed : ∃ callee name, n.memberCallee? = some callee ∧ callee.propertyName? = some name
  · obtain ⟨callee, name, hcallee, hname⟩ := hnamed
    simp only [FamilySelects, Rule.selects_iff hcallee hname, Catalog.ajaxEvent?_of_called hcallee hname]
    by_cases hmem : name ∈ "on" :: Catalog.ajaxEvents
    · have hcalled := Rule.calledMethod?_eq_some_iff.mpr ⟨hcallee, hname, hmem⟩
      rw [classify_call_of_keeps _ hcalled (keeps_of_ajax name hmem) (unplugged name hmem),
        List.mem_singleton]
      tauto
    · rw [List.mem_cons, not_or] at hmem
      simp [hmem]
  · have hnone : ∀ names test, ¬ Rule.Selects names test n := by
      rintro names test ⟨callee, name, hcalled, -⟩
      obtain ⟨hcallee, hname, -⟩ := Rule.calledMethod?_eq_some hcalled
      exact hnamed ⟨callee, name, hcallee, hname⟩
    simp [FamilySelects, hnone]

/-- No call is a call of two methods. -/
theorem not_selects_on_of_ajax {n : Node} (h : FamilySelects v root Catalog.ajaxEvents n) :
    ¬ FamilySelects v root ["on"] n := by
  obtain ⟨callee, name, hcalled, -⟩ := h
  obtain ⟨hcallee, hname, hmem⟩ := Rule.calledMethod?_eq_some hcalled
  rw [FamilySelects, Rule.selects_iff hcallee hname, List.mem_singleton]
  rintro ⟨rfl, -⟩
  exact absurd hmem (by decide)

theorem interleaves_noAjaxEvents (unplugged : ∀ name ∈ "on" :: Catalog.ajaxEvents, v.plugin? name = none)
    {onAjax onEvents onOn : String} (plain : options onEvents = []) (plain' : options onOn = [])
    {message message' : Option Message} {o o' : RuleOptions} {es ms os : List Diagnostic}
    (hes : reported v root [(onAjax, Catalog.noAjaxEvents)] options = .ok es)
    (hms : reported v root [(onEvents, .collectionMethod Catalog.ajaxEvents message o)] options = .ok ms)
    (hos : reported v root [(onOn, .collectionMethod ["on"] message' o')] options = .ok os) :
    Interleaves (ms.map (·.node)) ((os.map (·.node)).filter Catalog.BindsAjaxEvent)
      (es.map (·.node)) := by
  classical
  rw [map_node_reported .noAjaxEvents (Rule.reportsCalls_noAjaxEvents _) hes,
    map_node_reported_collectionMethod plain hms, map_node_reported_collectionMethod plain' hos,
    filter_mergeSort Node.startsFirst_trans Node.startsFirst_total, List.filter_filter]
  refine interleaves_mergeSort Node.startsFirst_trans Node.startsFirst_total (fun n => ?_) (fun n h => ?_) _
  · rw [Bool.eq_iff_iff, Bool.or_eq_true, Bool.and_eq_true, decide_eq_true_iff, decide_eq_true_iff,
      decide_eq_true_iff, decide_eq_true_iff, and_comm (a := Catalog.BindsAjaxEvent n)]
    exact selects_noAjaxEvents_iff unplugged
  · simp [not_selects_on_of_ajax (of_decide_eq_true h)]

/-- **The rules with handlers of their own agree with the family.** Over a tree of complete calls, if no
plugin is named like the methods in question, the rule on animations reports without options what the
family reports for `animate`, and the rule on ajax events reports what the family reports for methods of
that name, together with those of the calls the family reports for `on` whose first argument is a text
that names an ajax event. All keep the order of the whole. -/
theorem reported_as_family (v : Vocabulary) {root : Node} (complete : root.Complete)
    (options : OptionsTable) (onAnimate onMethod onAjax onEvents onOn : String)
    (plain : ∀ id ∈ [onAnimate, onMethod, onEvents, onOn], options id = [])
    (message message' message'' : Option Message) (o o' o'' : RuleOptions) :
    (v.plugin? "animate" = none →
      ∃ as cs,
        reported v root [(onAnimate, Catalog.noAnimate)] options = .ok as ∧
        reported v root [(onMethod, .collectionMethod ["animate"] message o)] options = .ok cs ∧
        as.map (·.node) = cs.map (·.node)) ∧
    ((∀ name ∈ "on" :: Catalog.ajaxEvents, v.plugin? name = none) →
      ∃ es ms os,
        reported v root [(onAjax, Catalog.noAjaxEvents)] options = .ok es ∧
        reported v root [(onEvents, .collectionMethod Catalog.ajaxEvents message' o')] options = .ok ms ∧
        reported v root [(onOn, .collectionMethod ["on"] message'' o'')] options = .ok os ∧
        (∀ n, n ∈ es.map (·.node) ↔
          n ∈ ms.map (·.node) ∨ n ∈ os.map (·.node) ∧ Catalog.BindsAjaxEvent n) ∧
        Interleaves (ms.map (·.node)) ((os.map (·.node)).filter Catalog.BindsAjaxEvent)
          (es.map (·.node))) := by
  have answer : ∀ id rule, Rule.Made rule → ∃ ds, reported v root [(id, rule)] options = .ok ds := by
    intro id rule made
    exact exists_reported v options (List.forall_mem_singleton.mpr made) complete
  constructor
  · intro unplugged
    obtain ⟨as, has⟩ := answer onAnimate _ .noAnimate
    obtain ⟨cs, hcs⟩ := answer onMethod _ (.collectionMethod ["animate"] message o)
    exact ⟨as, cs, has, hcs, reported_noAnimate_eq_family unplugged (plain _ (by simp))
      (plain _ (by simp)) has hcs⟩
  · intro unplugged
    obtain ⟨es, hes⟩ := answer onAjax _ .noAjaxEvents
    obtain ⟨ms, hms⟩ := answer onEvents _ (.collectionMethod Catalog.ajaxEvents message' o')
    obtain ⟨os, hos⟩ := answer onOn _ (.collectionMethod ["on"] message'' o'')
    have hinterleaves := interleaves_noAjaxEvents unplugged (plain _ (by simp)) (plain _ (by simp))
      hes hms hos
    refine ⟨es, ms, os, hes, hms, hos, fun n => ?_, hinterleaves⟩
    rw [hinterleaves.mem_iff, List.mem_filter, decide_eq_true_iff]

/-- The call `$x.animate()`. -/
def animation : Node :=
  .call (.ofId 2)
    (some (.member (.ofId 3) (.identifier (.ofId 4) "$x") (.identifier (.ofId 5) "animate") false)) []

/-- The call `$x.animate().on("ajaxStop")`. -/
def stopBinding : Node :=
  .call (.ofId 0) (some (.member (.ofId 1) animation (.identifier (.ofId 6) "on") false))
    [.literal (.ofId 7) (.text (Text.CodePoint.ofString "ajaxStop"))]

theorem nodes_stopBinding :
    stopBinding.nodes =
      [stopBinding, .member (.ofId 1) animation (.identifier (.ofId 6) "on") false, animation,
        .member (.ofId 3) (.identifier (.ofId 4) "$x") (.identifier (.ofId 5) "animate") false,
        .identifier (.ofId 4) "$x", .identifier (.ofId 5) "animate", .identifier (.ofId 6) "on",
        .literal (.ofId 7) (.text (Text.CodePoint.ofString "ajaxStop"))] := by
  simp [stopBinding, animation, Node.nodes_eq, Node.children]

theorem distinct_stopBinding : stopBinding.Distinct := by
  rw [Node.Distinct, nodes_stopBinding]
  decide

theorem complete_stopBinding : stopBinding.Complete := by
  intro site arguments
  rw [nodes_stopBinding]
  simp [stopBinding, animation]

/-- The family reports the links of the chain. -/
theorem mem_nodes_family_stopBinding {call callee : Node} {name : String} (hcall : call ∈ stopBinding.nodes)
    (hcalled : Rule.calledMethod? [name] call = some (callee, name))
    (hconstructor : callee.object?.any Settings.standard.vocabulary.isConstructor = false)
    (hchain : Settings.standard.vocabulary.chain callee true = true) {ds : List Diagnostic}
    (hds : reported Settings.standard.vocabulary stopBinding
      [(id, .collectionMethod [name] none {})] (fun _ => []) = .ok ds) :
    call ∈ ds.map (·.node) := by
  have hallows : Rule.allows (contextOf Settings.standard.vocabulary (.ofRoot stopBinding)
      (fun _ => []) id) call = false := Rule.allows_of_plain rfl call
  exact mem_nodes_of_chain (List.forall_mem_singleton.mpr (.collectionMethod ..)) distinct_stopBinding
    complete_stopBinding (List.mem_singleton.mpr rfl) hcall hcalled hconstructor hallows hchain hds

theorem reported_as_family_stopBinding :
    stopBinding.Complete ∧
      (∀ name ∈ "animate" :: "on" :: Catalog.ajaxEvents,
        Settings.standard.vocabulary.plugin? name = none) ∧
      (∃ as,
        reported Settings.standard.vocabulary stopBinding [("animations", Catalog.noAnimate)]
          (fun _ => []) = .ok as ∧ animation ∈ as.map (·.node)) ∧
      ∃ es,
        reported Settings.standard.vocabulary stopBinding [("events", Catalog.noAjaxEvents)]
          (fun _ => []) = .ok es ∧ stopBinding ∈ es.map (·.node) := by
  have unplugged : ∀ name ∈ "animate" :: "on" :: Catalog.ajaxEvents,
      Settings.standard.vocabulary.plugin? name = none := by decide
  obtain ⟨hanimate, hajax⟩ := reported_as_family Settings.standard.vocabulary complete_stopBinding
    (fun _ => []) "animations" "animate" "events" "methods" "on" (fun _ _ => rfl) none none none {} {} {}
  obtain ⟨as, cs, has, hcs, hnodes⟩ := hanimate (unplugged _ (List.mem_cons_self ..))
  obtain ⟨es, ms, os, hes, -, hos, hmem, -⟩ := hajax fun name hname =>
    unplugged name (List.mem_cons_of_mem _ hname)
  refine ⟨complete_stopBinding, unplugged, ⟨as, has, ?_⟩, es, hes, ?_⟩
  · rw [hnodes]
    exact mem_nodes_family_stopBinding (by simp [nodes_stopBinding]) rfl (by decide +kernel)
      (by decide +kernel) hcs
  · refine (hmem _).mpr (Or.inr ⟨?_, "ajaxStop", by decide, _, _, rfl⟩)
    exact mem_nodes_family_stopBinding (by simp [nodes_stopBinding]) rfl (by decide +kernel)
      (by decide +kernel) hos

end Dispatch

end ChainLint
