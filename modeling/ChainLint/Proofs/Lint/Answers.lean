import ChainLint.Lint
import ChainLint.Proofs.Rule.Repairs

/-!
# Linting answers

A run fails where the classifier follows a chain to a call without a callee. The trees that texts are
lowered to have no such call (`complete_of_lower`), so that linting fails only if lowering does.

The edits of a diagnostic are put together from parts of the node that it is about. In the definition of
a fix a part that is not there leads to no edits; `Catalog.evaluate` asks for the same parts and fails if
one is missing. It never does (`evaluate_eq`), and for a diagnostic of a rule it gives the edits that the
diagnostic has. Which fix this is depends on the rule only (`Rule.FixedBy`).
-/

namespace ChainLint

theorem Concrete.SourceText.complete_of_lower {s : SourceText} {t : Tree} {n : Node}
    (h : s.lower t = .ok n) : n.Complete := by
  rw [lower_eq_recurse] at h
  intro site arguments hmem
  obtain ⟨u, values, -, -, built⟩ := exists_origin_of_mem h hmem
  cases built

theorem Script.complete_of_program? {s : Script} {root : Node}
    (h : s.program?.result = .ok (some root)) : root.Complete := by
  unfold program? at h
  split at h
  · cases h
  · rename_i t htree
    cases hlower : (Concrete.SourceText.ofString s.text).lower t with
    | error e =>
        rw [hlower] at h
        cases h
    | ok n =>
        rw [hlower] at h
        cases h
        exact Concrete.SourceText.complete_of_lower hlower

/-! ## The fix of a rule -/

namespace Rule

/-- What the rule repairs its reports with, if it does. -/
inductive FixedBy : Rule → Option Fix → Prop
  | collectionMethod (names : List String) (message : Option Message) (o : RuleOptions) :
      FixedBy (collectionMethod names message o) o.fix?
  | collectionProperty (name : String) (message : Option Message) (o : RuleOptions) :
      FixedBy (collectionProperty name message o) o.fix?
  | utilityMethod (names : List String) (message : Option Message) (o : RuleOptions) :
      FixedBy (utilityMethod names message o) o.fix?
  | utilityProperty (name : String) (message : Option Message) (o : RuleOptions) :
      FixedBy (utilityProperty name message o) o.fix?
  | collectionOrUtilityMethod (names : List String) (message : Option Message) (o : RuleOptions) :
      FixedBy (collectionOrUtilityMethod names message o) o.fix?
  | noAjaxEvents : FixedBy Catalog.noAjaxEvents none
  | noAnimate : FixedBy Catalog.noAnimate none

/-- All diagnostics among the findings have the fix. -/
def FindsWith (c : Context) (fix? : Option Fix) (x : Except ChainError (List Finding)) : Prop :=
  ∀ fs d, x = .ok fs → .problem d ∈ fs → d.fix? = fix?.map fun fix => fix c.ruleId d.node

variable {rule : Rule} {c : Context} {n : Node} {fix? : Option Fix}

theorem findsWith_silence : FindsWith c fix? (.ok []) := by
  rintro fs d ⟨⟩ hd
  cases hd

theorem findsWith_reportIf {answer : Except ChainError Bool} {d : Diagnostic}
    (hd : d.fix? = fix?.map fun fix => fix c.ruleId d.node) :
    FindsWith c fix? (reportIf answer (.problem d)) := by
  intro fs e hfs he
  obtain ⟨-, h⟩ := mem_reportIf_iff.mp ⟨fs, hfs, he⟩
  obtain rfl := Finding.problem.inj h
  exact hd

theorem FixedBy.findsWith (fixed : rule.FixedBy fix?) {h : Handler} (hh : h ∈ rule.visitor c) (n : Node) :
    FindsWith c fix? (h.handle n) := by
  cases fixed with
  | collectionMethod names message o =>
      obtain rfl := List.mem_singleton.mp hh
      dsimp only
      cases calledMethod? names n with
      | none => exact findsWith_silence
      | some called =>
          dsimp only
          split_ifs
          · exact findsWith_silence
          · exact findsWith_silence
          · exact findsWith_reportIf rfl
  | collectionProperty name message o =>
      obtain rfl := List.mem_singleton.mp hh
      dsimp only
      cases n.object? with
      | none => exact findsWith_silence
      | some object =>
          dsimp only
          split_ifs
          · exact findsWith_silence
          · exact findsWith_silence
          · exact findsWith_reportIf rfl
  | utilityMethod names message o =>
      obtain rfl := List.mem_singleton.mp hh
      dsimp only
      cases calledMethod? names n with
      | none => exact findsWith_silence
      | some called =>
          dsimp only
          cases called.1.object? with
          | none => exact findsWith_silence
          | some object => exact findsWith_reportIf rfl
  | utilityProperty name message o =>
      obtain rfl := List.mem_singleton.mp hh
      dsimp only
      cases n.object? with
      | none => exact findsWith_silence
      | some object =>
          dsimp only
          split_ifs
          · exact findsWith_silence
          · exact findsWith_reportIf rfl
  | collectionOrUtilityMethod names message o =>
      obtain rfl := List.mem_singleton.mp hh
      dsimp only
      cases calledMethod? names n with
      | none => exact findsWith_silence
      | some called => exact findsWith_reportIf rfl
  | noAjaxEvents =>
      obtain rfl := List.mem_singleton.mp hh
      dsimp only
      cases Catalog.ajaxEvent? n with
      | none => exact findsWith_silence
      | some event => exact findsWith_reportIf rfl
  | noAnimate =>
      obtain rfl := List.mem_singleton.mp hh
      dsimp only
      split_ifs
      · exact findsWith_silence
      · exact findsWith_silence
      · exact findsWith_reportIf rfl
      · exact findsWith_reportIf rfl

end Rule

/-! ## Evaluating a fix -/

/-- Why the edits of a fix cannot be had. -/
inductive FixError where
  /-- A node does not have the part that it is asked for. -/
  | partMissing
  | range (error : Edit.RangeError)

namespace Fix

def part : Option Node → Except FixError Node
  | some n => .ok n
  | none => .error .partMissing

def insertion (bounds : List Int) (text : String) : Except FixError Edit :=
  (Edit.insertBeforeRange bounds text).mapError .range

theorem insertion_cons (start : Int) (bounds : List Int) (text : String) :
    insertion (start :: bounds) text = .ok (Edit.insertAt start text) := rfl

def evaluateSize (callee call : Node) : Except FixError (List Edit) := do
  let name ← part callee.property?
  return [⟨⟨name.span.start, call.span.stop⟩, "length"⟩]

def evaluateAndSelf (callee : Node) : Except FixError (List Edit) := do
  let name ← part callee.property?
  return [Edit.replace name "addBack"]

def evaluateEventShorthand (callee call : Node) : Except FixError (List Edit) := do
  let text := Text.JsonString.encode (callee.propertyName?.getD "")
  let name ← part callee.property?
  if call.arguments.isEmpty then
    let event ← insertion [call.span.stop - 1] text
    return [Edit.replace name "trigger", event]
  else
    let first ← part call.arguments.head?
    let event ← insertion [first.span.start, first.span.stop] (text ++ ", ")
    return [Edit.replace name "on", event]

end Fix

namespace Catalog

/-- The edits that a rule of the catalog repairs a node with. -/
def evaluate (id : String) (n : Node) : Except FixError (List Edit) :=
  match n.memberCallee? with
  | none => .ok []
  | some callee =>
    if id = "no-and-self" then Fix.evaluateAndSelf callee
    else if id = "no-event-shorthand" then Fix.evaluateEventShorthand callee n
    else if id = "no-size" then Fix.evaluateSize callee n
    else .ok []

/-- The fixes of the catalog. -/
def fix? (id : String) : Option Fix :=
  if id = "no-and-self" then some Fix.andSelf
  else if id = "no-event-shorthand" then some Fix.eventShorthand
  else if id = "no-size" then some Fix.size
  else none

theorem rules_fixed : ∀ r ∈ Catalog.rules, r.2.FixedBy (fix? r.1) := by
  simp only [Catalog.rules, List.forall_mem_cons, List.not_mem_nil, false_implies, implies_true,
    and_true]
  exact ⟨.utilityMethod .., .noAjaxEvents, .collectionMethod .., .noAnimate,
    .collectionOrUtilityMethod .., .collectionMethod .., .utilityProperty .., .utilityProperty ..,
    .collectionOrUtilityMethod .., .collectionMethod .., .collectionProperty ..,
    .collectionMethod .., .collectionMethod .., .collectionMethod ..⟩

theorem exists_property_of_memberCallee? {n callee : Node} (h : n.memberCallee? = some callee) :
    ∃ name, callee.property? = some name := by
  unfold Node.memberCallee? at h
  split at h
  · obtain rfl := Option.some.inj h
    exact ⟨_, rfl⟩
  · cases h

/-- No part is missing: the name of a method is the property of its callee, an argument is taken only
where there is one, and every range that an edit is placed by has bounds. -/
theorem evaluate_eq (id : String) (n : Node) :
    evaluate id n = .ok (((fix? id).map fun fix => fix id n).getD []) := by
  cases hcallee : n.memberCallee? with
  | none =>
      rw [evaluate, hcallee, fix?]
      split_ifs <;> simp [Fix.andSelf, Fix.eventShorthand, Fix.size, hcallee]
  | some callee =>
      obtain ⟨name, hname⟩ := exists_property_of_memberCallee? hcallee
      rw [evaluate, hcallee, fix?]
      dsimp only
      split_ifs
      · rw [Fix.evaluateAndSelf, hname]
        simp [Fix.andSelf, Fix.part, hcallee, hname]
      · rw [Fix.evaluateEventShorthand, hname]
        cases harguments : n.arguments with
        | nil => simp [Fix.eventShorthand, Fix.part, Fix.insertion_cons, hcallee, hname, harguments]
        | cons first rest =>
            simp [Fix.eventShorthand, Fix.part, Fix.insertion_cons, hcallee, hname, harguments,
              Edit.insertBefore]
      · rw [Fix.evaluateSize, hname]
        simp [Fix.size, Fix.part, hcallee, hname]
      · rfl

/-- What is reported by a rule of the catalog has the edits that its fix is evaluated to. -/
theorem evaluate_of_reported {v : Vocabulary} {root : Node} {rules : List (String × Rule)}
    {options : OptionsTable} (catalog : ∀ r ∈ rules, r ∈ Catalog.rules) {ds : List Diagnostic}
    (hds : Dispatch.reported v root rules options = .ok ds) {d : Diagnostic} (hd : d ∈ ds) :
    evaluate d.ruleId d.node = .ok d.edits := by
  obtain ⟨r, hr, handler, hhandler, step, -, -, fs, hfs, hmem⟩ := (Dispatch.mem_reported_iff hds).mp hd
  have hfix := (rules_fixed r (catalog r hr)).findsWith hhandler step.node fs d hfs hmem
  obtain ⟨hname, -⟩ := (rules_made r (catalog r hr)).signs hhandler hfs hmem
  rw [evaluate_eq, Diagnostic.edits, hfix, hname]
  rfl

end Catalog

/-! ## Linting -/

theorem Dispatch.exists_run {v : Vocabulary} {root : Node} {rules : List (String × Rule)}
    {options : OptionsTable} {ds : List Diagnostic} (h : reported v root rules options = .ok ds) :
    ∃ findings, (run v root rules options).result = .ok findings ∧ findings.diagnostics = ds := by
  rw [reported] at h
  cases hrun : (run v root rules options).result with
  | error e =>
      rw [hrun] at h
      cases h
  | ok findings =>
      rw [hrun] at h
      exact ⟨findings, rfl, Except.ok.inj h⟩

namespace Linter

variable {l : Linter} (made : ∀ r ∈ l.rules, r.2.Made)

include made

theorem lintProgram_of_complete (path : String) {root : Node} (complete : root.Complete) :
    ∃ ds, Dispatch.reported l.configuration.settings.vocabulary root l.rules
        l.configuration.optionsFor = .ok ds ∧
      (l.lintProgram path (some root)).result = .ok ⟨path, some ds⟩ := by
  obtain ⟨ds, hds⟩ := Dispatch.exists_reported l.configuration.settings.vocabulary
    l.configuration.optionsFor made complete
  obtain ⟨findings, hrun, rfl⟩ := Dispatch.exists_run hds
  refine ⟨_, hds, ?_⟩
  simp only [lintProgram, Attempt.result_bind, Attempt.result_mapError, hrun]
  rfl

/-- Linting a script gives what is reported of its program; where there is none, it gives nothing or the
failure of lowering. -/
theorem lintScript_cases (path : String) (s : Script) :
    (∃ e, s.program?.result = .error e ∧ (l.lintScript path s).result = .error (.lowering e)) ∨
    (s.program?.result = .ok none ∧ (l.lintScript path s).result = .ok ⟨path, none⟩) ∨
    ∃ root ds, s.program?.result = .ok (some root) ∧ root.Complete ∧
      Dispatch.reported l.configuration.settings.vocabulary root l.rules
        l.configuration.optionsFor = .ok ds ∧
      (l.lintScript path s).result = .ok ⟨path, some ds⟩ := by
  have hlint : (l.lintScript path s).result =
      s.program?.result.mapError .lowering >>= fun p => (l.lintProgram path p).result := by
    rw [lintScript, Attempt.result_bind, Attempt.result_mapError]
  cases hprogram : s.program?.result with
  | error e =>
      rw [hlint, hprogram]
      exact .inl ⟨e, rfl, rfl⟩
  | ok p =>
      rw [hlint, hprogram]
      cases p with
      | none => exact .inr (.inl ⟨rfl, rfl⟩)
      | some root =>
          have complete := Script.complete_of_program? hprogram
          obtain ⟨ds, hds, hresult⟩ := lintProgram_of_complete made path complete
          exact .inr (.inr ⟨root, ds, rfl, complete, hds, hresult⟩)

theorem lintScript_ne_chain (path : String) (s : Script) (e : ChainError) :
    (l.lintScript path s).result ≠ .error (.chain e) := by
  rcases lintScript_cases made path s with ⟨_, -, h⟩ | ⟨-, h⟩ | ⟨_, _, -, -, -, h⟩ <;>
    simp [h]

theorem lintFile_ne_chain (files : FileSystem) (path : Path) (e : ChainError) :
    (l.lintFile files path).result ≠ .error (.chain e) := by
  rw [lintFile]
  cases files.readScript path with
  | error error =>
      have h : (l.lintProgram path.render none).result = .ok ⟨path.render, none⟩ := rfl
      simp [h]
  | ok s =>
      have h := lintScript_ne_chain made path.render s e
      simpa using h

end Linter

/-- **Running rules never fails.** Every tree that a text is lowered to gives each call a callee. Over such
a tree a run of rules of the catalog has a result, whatever the settings and the options are, and the fix
of every diagnostic can be evaluated. So linting a script or a file never ends with a failure of the
classifier. -/
theorem Catalog.never_fails (v : Vocabulary) (options : OptionsTable) {rules : List (String × Rule)}
    (catalog : ∀ r ∈ rules, r ∈ Catalog.rules) :
    (∀ (s : Concrete.SourceText) t root, s.lower t = .ok root → root.Complete) ∧
    (∀ root : Node, root.Complete → ∃ findings, (Dispatch.run v root rules options).result = .ok findings ∧
      ∀ d ∈ findings.diagnostics, evaluate d.ruleId d.node = .ok d.edits) ∧
    ∀ c e, (∀ path s, (Linter.lintScript ⟨c, rules⟩ path s).result ≠ .error (.chain e)) ∧
      ∀ files path, (Linter.lintFile ⟨c, rules⟩ files path).result ≠ .error (.chain e) := by
  have made : ∀ r ∈ rules, r.2.Made := fun r hr => rules_made r (catalog r hr)
  refine ⟨fun s t root => Concrete.SourceText.complete_of_lower, fun root complete => ?_,
    fun c e => ⟨fun path s => ?_, fun files path => ?_⟩⟩
  · obtain ⟨ds, hds⟩ := Dispatch.exists_reported v options made complete
    obtain ⟨findings, hrun, rfl⟩ := Dispatch.exists_run hds
    exact ⟨findings, hrun, fun d hd => evaluate_of_reported catalog hds hd⟩
  · exact Linter.lintScript_ne_chain made path s e
  · exact Linter.lintFile_ne_chain made files path e

theorem Catalog.never_fails_of_accentScript :
    accentProgram.Complete ∧ ∃ findings,
      (Dispatch.run Settings.standard.vocabulary accentProgram rules (fun _ => [])).result =
        .ok findings ∧
      ∃ d ∈ findings.diagnostics, d.ruleId = "no-event-shorthand" ∧
        evaluate "no-event-shorthand" accentNode = .ok d.edits ∧
        d.edits = [⟨⟨3, 8⟩, "trigger"⟩, ⟨⟨9, 9⟩, "\"click\""⟩] := by
  obtain ⟨hlowered, hruns, -⟩ :=
    never_fails Settings.standard.vocabulary (fun _ => []) (fun r (hr : r ∈ Catalog.rules) => hr)
  have complete := hlowered _ _ _ lower_accentScript
  obtain ⟨findings, hrun, hevaluate⟩ := hruns accentProgram complete
  obtain ⟨ds, d, hds, hd, hid, hnode, hedits⟩ := exists_reported_accentProgram
  rw [Dispatch.reported, hrun] at hds
  obtain rfl := Except.ok.inj hds
  have hd' := hevaluate d hd
  rw [hid, hnode] at hd'
  exact ⟨complete, findings, hrun, d, hd, hid, hd', hedits⟩

end ChainLint
