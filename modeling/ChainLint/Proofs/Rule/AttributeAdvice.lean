import ChainLint.Proofs.Chain.Returns
import ChainLint.Proofs.Dispatch.Receivers

/-!
# The advice on attributes

The rule on attributes advises to read or to write an attribute, by the number of arguments of the call:
two are a name and a value. The classifier decides the same question by number and shape, because a call
that writes is a collection and a call that reads is none. To it a table of values writes as well, and so
do more than two arguments. There the two disagree, and nowhere else (`attr_advice_iff`).
-/

namespace ChainLint

namespace Catalog

def attrRule : String × Rule :=
  ("no-attr", .collectionOrUtilityMethod ["attr", "removeAttr"] (made attrMessage) {})

theorem attrRule_mem : attrRule ∈ rules := by simp [attrRule, rules]

/-- The advice to use a method of elements instead of `attr`. -/
def attrAdvice (replacement : String) : String :=
  "Prefer Element#" ++ replacement ++ " to .attr/$.attr"

theorem attrAdvice_eq (replacement : String) :
    attrAdvice replacement = "Prefer Element#" ++ replacement ++ " to .attr/$.attr" := rfl

theorem attrAdvice_inj {a b : String} : attrAdvice a = attrAdvice b ↔ a = b := by
  rw [attrAdvice_eq, attrAdvice_eq, String.append_left_inj, String.append_right_inj]

theorem attrMessage_eq {n callee : Node} (hcallee : n.memberCallee? = some callee)
    (hname : callee.propertyName? = some "attr") :
    attrMessage (.node n) =
      attrAdvice (if n.arguments.length = 2 then "setAttribute" else "getAttribute") := by
  have hmethod : methodName n = "attr" := by
    rw [methodName, hcallee, Option.bind_some, hname]
    rfl
  have hmessage : attrMessage (.node n) =
      "Prefer Element#" ++ (if methodName n = "removeAttr" then "removeAttribute"
        else if n.arguments.length = 2 then "setAttribute" else "getAttribute") ++
        " to ." ++ methodName n ++ "/$." ++ methodName n := rfl
  have hattr : "attr" ≠ "removeAttr" := by decide
  have hend : " to ." ++ ("attr" ++ ("/$." ++ "attr")) = " to .attr/$.attr" := by decide
  simp only [hmessage, hmethod, if_neg hattr, attrAdvice_eq, String.append_assoc, hend]

/-- The advice is reported as it is: it has no marks. -/
theorem report_attrMessage {n callee : Node} (hcallee : n.memberCallee? = some callee)
    (hname : callee.propertyName? = some "attr") (text : String) (origin : Origin) :
    Message.report (made attrMessage) n text origin (.flag false) =
      attrAdvice (if n.arguments.length = 2 then "setAttribute" else "getAttribute") := by
  have hplain : ∀ replacement ∈ ["setAttribute", "getAttribute"],
      Message.unmarked (attrAdvice replacement) = attrAdvice replacement ∧
        (attrAdvice replacement).isEmpty = false := by
    decide +kernel
  have hreplacement : (if n.arguments.length = 2 then "setAttribute" else "getAttribute") ∈
      ["setAttribute", "getAttribute"] := by
    split <;> simp
  obtain ⟨hunmarked, hsome⟩ := hplain _ hreplacement
  have hclause : (Deprecation.flag false).clause = "" := rfl
  simp only [Message.report, Message.renderOption, made, Message.render, Option.getD_some,
    attrMessage_eq hcallee hname, hunmarked, hsome, hclause, Bool.false_eq_true, if_false,
    String.append_empty]

/-! ## What the classifier takes for a setter -/

/-- The arguments are a name and a value, or more, or a table of values. -/
def SetsValues (arguments : List Node) : Prop :=
  2 ≤ arguments.length ∨ ∃ a, arguments = [a] ∧ a.kind = "ObjectExpression"

section

variable {v : Vocabulary} (unplugged : v.plugin? "attr" = none) {callee : Node}
  (hname : callee.propertyName? = some "attr")
  (hreceiver : callee.object?.any v.isConstructor = false)

include unplugged hname hreceiver

theorem returnsOther_attr_iff {arguments : List Node} :
    v.returnsOther (some callee) arguments = false ↔ SetsValues arguments := by
  have hattr : "attr" ∈ Methods.valueAccessors := by decide
  rw [Bool.eq_false_iff, ne_eq, Vocabulary.returnsOther_iff, Vocabulary.returnsOther_iff_of_named hname,
    Vocabulary.leaves_valueAccessor_iff hattr unplugged, hreceiver]
  match arguments with
  | [] => simp [SetsValues]
  | [a] => simp [SetsValues]
  | _ :: _ :: _ => simp [SetsValues]

/-- The advice follows the number of arguments, and the classifier their shape. -/
theorem advice_agrees_iff {arguments : List Node} :
    ((if arguments.length = 2 then "setAttribute" else "getAttribute") =
        if v.returnsOther (some callee) arguments then "getAttribute" else "setAttribute") ↔
      ¬ (2 < arguments.length ∨ ∃ a, arguments = [a] ∧ a.kind = "ObjectExpression") := by
  cases hother : v.returnsOther (some callee) arguments with
  | false =>
      rcases (returnsOther_attr_iff unplugged hname hreceiver).mp hother with hlength | ⟨a, rfl, ha⟩
      · rcases Nat.lt_or_eq_of_le hlength with hlength | hlength
        · simp [hlength, Nat.ne_of_gt hlength]
        · have hone : ∀ a, arguments ≠ [a] := by
            rintro a rfl
            cases hlength
          simp [← hlength, hone]
      · simp [ha]
  | true =>
      have hgets : ¬ SetsValues arguments := by
        rw [← returnsOther_attr_iff unplugged hname hreceiver, hother]
        exact Bool.noConfusion
      rw [SetsValues, not_or, Nat.not_le] at hgets
      obtain ⟨hlength, htable⟩ := hgets
      have hshort : ¬ 2 < arguments.length := by omega
      have hnot : arguments.length ≠ 2 := by omega
      simp [hnot, hshort, htable]

end

/-- **Where the advice on attributes is right.** Over a tree of complete calls and without a plugin of that
name, a call of `attr` on a collection that is reported is one for `setAttribute` if it has two arguments,
and else for `getAttribute`. The classifier takes a table of values or more than two arguments for a setter
as well, so that the advice contradicts it there, and nowhere else. -/
theorem attr_advice_iff (v : Vocabulary) (unplugged : v.plugin? "attr" = none) {root : Node}
    (complete : root.Complete) (options : OptionsTable) {rules : List (String × Rule)}
    (catalog : ∀ r ∈ rules, r ∈ Catalog.rules) :
    ∃ ds, Dispatch.reported v root rules options = .ok ds ∧
      ∀ d ∈ ds, d.ruleId = "no-attr" → ∀ callee, d.node.memberCallee? = some callee →
        callee.propertyName? = some "attr" → callee.object?.any v.isConstructor = false →
          d.message = attrAdvice
            (if d.node.arguments.length = 2 then "setAttribute" else "getAttribute") ∧
          (v.returnsOther (some callee) d.node.arguments = false ↔ SetsValues d.node.arguments) ∧
          (d.message = attrAdvice
              (if v.returnsOther (some callee) d.node.arguments then "getAttribute"
                else "setAttribute") ↔
            ¬ (2 < d.node.arguments.length ∨
              ∃ a, d.node.arguments = [a] ∧ a.kind = "ObjectExpression")) := by
  have made : ∀ r ∈ rules, r.2.Made := fun r hr => rules_made r (catalog r hr)
  obtain ⟨ds, hds⟩ := Dispatch.exists_reported v options made complete
  refine ⟨ds, hds, fun d hd hid callee hcallee hname hreceiver => ?_⟩
  obtain ⟨h, hhandler, -, hfinds⟩ :=
    Dispatch.exists_finding_of_reported attrRule_mem catalog hds hd hid
  obtain ⟨callee', name, hcalled, -, hreport⟩ :=
    (Rule.collectionOrUtilityMethod_finds_iff hhandler).mp hfinds
  have hmessage : d.message = attrAdvice
      (if d.node.arguments.length = 2 then "setAttribute" else "getAttribute") := by
    have h := congrArg Diagnostic.message (Finding.problem.inj hreport)
    dsimp only at h
    rw [h, report_attrMessage hcallee hname]
  refine ⟨hmessage, returnsOther_attr_iff unplugged hname hreceiver, ?_⟩
  rw [hmessage, attrAdvice_inj]
  exact advice_agrees_iff unplugged hname hreceiver

/-! ## A table of attributes -/

/-- The argument in `$div.attr({id: "x"})`. -/
def attributeTable : Node :=
  .other (.ofId 4) "ObjectExpression"
    [.other (.ofId 5) "Property"
      [.identifier (.ofId 6) "id", .literal (.ofId 7) (.text (Text.CodePoint.ofString "x"))]]

def tableCallee : Node :=
  .member (.ofId 1) (.identifier (.ofId 2) "$div") (.identifier (.ofId 3) "attr") false

/-- The call `$div.attr({id: "x"})`. -/
def tableCall : Node := .call (.ofId 0) (some tableCallee) [attributeTable]

theorem complete_tableCall : tableCall.Complete := by
  intro site arguments
  simp [tableCall, tableCallee, attributeTable, Node.nodes_eq, Node.children]

theorem exists_reported_tableCall :
    ∃ ds d, Dispatch.reported Settings.standard.vocabulary tableCall rules (fun _ => []) = .ok ds ∧
      d ∈ ds ∧ d.ruleId = "no-attr" ∧ d.node = tableCall ∧ d.message = attrAdvice "getAttribute" := by
  have distinct : tableCall.Distinct := by
    simp [Node.Distinct, tableCall, tableCallee, attributeTable, Node.nodes_eq, Node.children, Node.id,
      Node.site, Site.ofId]
  have hcallee : tableCallee ∈ tableCall.nodes :=
    Node.child_mem_nodes (Node.self_mem_nodes _) (by simp [tableCall, Node.children])
  have hclass : Settings.standard.vocabulary.classify (.ofRoot tableCall) .either (some tableCallee) =
      .ok true := by
    rw [Vocabulary.classify_either_eq, Vocabulary.classify, Vocabulary.peelOption,
      Vocabulary.peel_ofRoot _ distinct complete_tableCall hcallee,
      Parents.isCallee_callee distinct (Node.self_mem_nodes _)]
    decide +kernel
  obtain ⟨ds, hds⟩ := Dispatch.exists_reported Settings.standard.vocabulary (fun _ => []) rules_made
    complete_tableCall
  have hhandler : _ ∈ attrRule.2.visitor (Dispatch.contextOf Settings.standard.vocabulary
      (.ofRoot tableCall) (fun _ => []) "no-attr") := List.mem_singleton.mpr rfl
  have hfinds := (Rule.collectionOrUtilityMethod_finds_iff hhandler (n := tableCall)).mpr
    ⟨tableCallee, "attr", rfl, hclass, rfl⟩
  have hmem := (Dispatch.mem_reported_iff hds).mpr
    ⟨_, attrRule_mem, _, hhandler, _, Node.leave_mem_walk (Node.self_mem_nodes _), rfl, hfinds⟩
  exact ⟨ds, _, hds, hmem, rfl, rfl, report_attrMessage rfl rfl "attr" .either⟩

theorem attr_advice_of_tableCall :
    Settings.standard.vocabulary.plugin? "attr" = none ∧ tableCall.Complete ∧
      ∃ ds d, Dispatch.reported Settings.standard.vocabulary tableCall rules (fun _ => []) = .ok ds ∧
        d ∈ ds ∧ d.ruleId = "no-attr" ∧ d.node = tableCall ∧
        (Settings.standard.vocabulary.returnsOther (some tableCallee) [attributeTable] = false ↔
          SetsValues [attributeTable]) ∧
        d.message ≠ attrAdvice
          (if Settings.standard.vocabulary.returnsOther (some tableCallee) [attributeTable]
            then "getAttribute" else "setAttribute") := by
  obtain ⟨ds, d, hds, hd, hid, hnode, -⟩ := exists_reported_tableCall
  obtain ⟨es, hes, hall⟩ := attr_advice_iff Settings.standard.vocabulary rfl complete_tableCall
    (fun _ => []) fun r hr => hr
  obtain rfl := Except.ok.inj (hds.symm.trans hes)
  have hreceiver : tableCallee.object?.any Settings.standard.vocabulary.isConstructor = false := by
    decide +kernel
  obtain ⟨-, hsets, hagree⟩ := hall d hd hid tableCallee (by rw [hnode]; rfl) rfl hreceiver
  rw [hnode] at hsets hagree
  exact ⟨rfl, complete_tableCall, ds, d, hds, hd, hid, hnode, hsets,
    fun h => hagree.mp h (Or.inr ⟨attributeTable, rfl, rfl⟩)⟩

/-- The advice is to read an attribute, of a call that the classifier takes for a setter. -/
theorem table_advised_to_read :
    Settings.standard.vocabulary.plugin? "attr" = none ∧ tableCall.Complete ∧
      tableCall.memberCallee? = some tableCallee ∧ tableCallee.propertyName? = some "attr" ∧
      tableCallee.object?.any Settings.standard.vocabulary.isConstructor = false ∧
      (∃ ds d, Dispatch.reported Settings.standard.vocabulary tableCall rules (fun _ => []) = .ok ds ∧
        d ∈ ds ∧ d.ruleId = "no-attr" ∧ d.node = tableCall ∧
        d.message = "Prefer Element#getAttribute to .attr/$.attr") ∧
      Settings.standard.vocabulary.returnsOther (some tableCallee) tableCall.arguments = false := by
  have hadvice : attrAdvice "getAttribute" = "Prefer Element#getAttribute to .attr/$.attr" := by
    decide
  obtain ⟨ds, d, hds, hd, hid, hnode, hmessage⟩ := exists_reported_tableCall
  exact ⟨rfl, complete_tableCall, rfl, rfl, by decide +kernel,
    ⟨ds, d, hds, hd, hid, hnode, hmessage.trans hadvice⟩, by decide +kernel⟩

end Catalog

end ChainLint
