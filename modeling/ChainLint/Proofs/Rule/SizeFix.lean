import ChainLint.Proofs.Rule.Repairs

/-!
# What the fix of `size` does to parentheses

The fix of a call `.size()` replaces one range of the text, from the name of the method to the end of
the call. Nodes know nothing of parentheses, and so the range is compared with those of the concrete
tree. With almost all pairs of parentheses it gets along: it takes both of them, or neither
(`Span.Clear`). The exception is a pair around the callee, as in `(a.size)()`, of which it takes the
second one only (`Span.Cuts`). Which pairs are cut is decided in bytes, from how the tree is laid out
(`cuts_of_around`, `clear_of_not_around`), and passes to characters.
-/

namespace ChainLint

open Text Utf8

/-! ## Ranges and parentheses at their ends -/

namespace Span

/-- A range that is replaced gets along with the pair of parentheses at the two ends of another range:
they lie apart, it takes both, or it is strictly between them. -/
def Clear (edit pair : Span) : Prop :=
  edit.stop ≤ pair.start ∨ pair.stop ≤ edit.start ∨
    (edit.start ≤ pair.start ∧ pair.stop ≤ edit.stop) ∨
    (pair.start < edit.start ∧ edit.stop < pair.stop)

/-- A range that is replaced takes the second parenthesis and leaves the first. -/
def Cuts (edit pair : Span) : Prop :=
  pair.start < edit.start ∧ edit.start < pair.stop ∧ pair.stop ≤ edit.stop

theorem Cuts.not_clear {edit pair : Span} (h : edit.Cuts pair) : ¬ edit.Clear pair := by
  unfold Cuts at h
  unfold Clear
  omega

end Span

namespace Concrete

open ChainLint.Concrete.Tree

variable {source : String} {root call name p : Tree}

/-- The bytes from the name of a method to the end of its call. -/
def callBytes (call name : Tree) : Span := ⟨name.label.startByte, call.label.endByte⟩

/-! ## In bytes -/

theorem Tree.IsParenthesized.role (h : p.IsParenthesized) : p.role = .parentheses := by
  rw [Tree.role, h]
  rfl

/-- The pair stands in the call and around the name: it is a pair around the callee. -/
def AroundCallee (call name p : Tree) : Prop := call.Contains p ∧ p.Contains name

section

variable (laid : LaidOut source root) (hcall : root.Contains call) (hname : call.MethodName name)
  (hp : p.IsParenthesized)

include laid hcall hname hp

theorem cuts_of_around (around : AroundCallee call name p) :
    (callBytes call name).Cuts (bytesOf p) := by
  have laidCall := laid.of_contains hcall
  have laidPair := laidCall.of_contains around.1
  have hne : name ≠ p := by
    rintro rfl
    exact absurd (hname.role_name.symm.trans hp.role) nofun
  obtain ⟨hstart, hstop⟩ := laidPair.between hp (below_of_contains_ne around.2 hne)
  have hordered := (laidPair name around.2).ordered
  have hinside := (laidCall.encloses around.1).2
  simp only [Span.Cuts, callBytes, bytesOf]
  omega

/-- Any other pair is nested with the call or stands apart from it; and if it stands in the call, it is
nested with the name or stands apart from it. -/
theorem clear_of_not_around (hroot : root.Contains p) (around : ¬ AroundCallee call name p) :
    (callBytes call name).Clear (bytesOf p) := by
  have laidCall := laid.of_contains hcall
  obtain ⟨hnameStart, hnameStop⟩ := laidCall.encloses hname.below.contains
  have hne : call ≠ p := by
    rintro rfl
    exact absurd (hname.1.symm.trans hp.role) nofun
  simp only [Span.Clear, callBytes, bytesOf]
  rcases laid.nested_or_apart hcall hroot with hin | hout | hapart
  · have hstop := (laidCall.encloses hin).2
    have hordered := (laidCall p hin).ordered
    rcases laidCall.nested_or_apart hname.below.contains hin with hnested | hcut | hapart
    · have hstart := ((laidCall.of_contains hname.below.contains).encloses hnested).1
      omega
    · exact absurd ⟨hin, hcut⟩ around
    · have hnameOrdered := (laidCall name hname.below.contains).ordered
      unfold Label.Apart at hapart
      omega
  · have hbetween := (laid.of_contains hroot).between hp (below_of_contains_ne hout hne)
    omega
  · unfold Label.Apart at hapart
    omega

end

/-! ## In characters -/

/-- What holds of an edit and a pair of parentheses in bytes holds of them in characters. -/
theorem exists_pair_in_characters {edit : Span} (placed : WellPlaced source p)
    (hp : p.IsParenthesized)
    (hedit : (SourceText.ofString source).Translates (callBytes call name) edit) :
    ∃ pair, (SourceText.ofString source).Translates (bytesOf p) pair ∧
      ((callBytes call name).Cuts (bytesOf p) → edit.Cuts pair) ∧
      ((callBytes call name).Clear (bytesOf p) → edit.Clear pair) := by
  obtain ⟨pair, hpair, hopening, hclosing⟩ :=
    SourceText.exists_parentheses (placed.opening hp) (placed.closing hp)
  obtain ⟨hlt, -⟩ := placed.closing hp
  refine ⟨pair, hpair, fun h => ?_, fun h => ?_⟩
  · simp only [Span.Cuts, callBytes, bytesOf] at h
    have hstart := SourceText.offset_mono (by omega) hopening hedit.1
    have hbefore := SourceText.offset_mono (by omega) hedit.1 hclosing
    have hstop := SourceText.offset_mono (by omega) hpair.2 hedit.2
    unfold Span.Cuts
    omega
  · simp only [Span.Clear, callBytes, bytesOf] at h
    rcases h with hafter | hbefore | ⟨hstart, hstop⟩ | ⟨hstart, hstop⟩
    · exact .inl (SourceText.offset_mono (by omega) hedit.2 hpair.1)
    · exact .inr (.inl (SourceText.offset_mono (by omega) hpair.2 hedit.1))
    · have hstart := SourceText.offset_mono (by omega) hedit.1 hpair.1
      have hstop := SourceText.offset_mono (by omega) hpair.2 hedit.2
      exact .inr (.inr (.inl ⟨hstart, hstop⟩))
    · have hstart := SourceText.offset_mono (by omega) hopening hedit.1
      have hstop := SourceText.offset_mono (by omega) hedit.2 hclosing
      exact .inr (.inr (.inr ⟨by omega, by omega⟩))

end Concrete

/-! ## The fix of the rule -/

namespace Catalog

open Concrete

/-- What the rule reports is a method call of the tree, and its fix replaces the text from the name to
the end of the call. -/
theorem exists_call_of_reported {v : Vocabulary} {n : Node} {rules : List (String × Rule)}
    {options : OptionsTable} {ds : List Diagnostic} {d : Diagnostic}
    (catalog : ∀ r ∈ rules, r ∈ Catalog.rules) (hds : Dispatch.reported v n rules options = .ok ds)
    (hd : d ∈ ds) (hid : d.ruleId = "no-size") :
    d.node ∈ n.nodes ∧ ∃ callee, d.node.memberCallee? = some callee ∧
      callee.propertyName? = some "size" ∧ d.edits = Fix.size "no-size" d.node := by
  obtain ⟨hnode, hfix, callee, text, hcallee, htext, hsize⟩ :=
    exists_method_of_reported sizeRule_mem catalog hds hd hid
  obtain rfl := List.mem_singleton.mp hsize
  refine ⟨hnode, callee, hcallee, htext, ?_⟩
  rw [Diagnostic.edits, hfix]
  rfl

/-- **The fix of `size` and parentheses.** In the tree of a text that is laid out as a parser's trees
are, the rule reports calls that are written with the name of a method, and replaces the text from the
name to the end of the call. It gets along with every pair of parentheses but those that stand in the
call and around the name; of these it takes the second one and leaves the first. -/
theorem size_edit_clear_iff (source : String) (v : Vocabulary) (options : OptionsTable) {root : Tree}
    (laid : LaidOut source root) {n : Node}
    (hlower : (SourceText.ofString source).lower root = .ok n) {rules : List (String × Rule)}
    (catalog : ∀ r ∈ rules, r ∈ Catalog.rules) {ds : List Diagnostic}
    (hds : Dispatch.reported v n rules options = .ok ds) {d : Diagnostic} (hd : d ∈ ds)
    (hid : d.ruleId = "no-size") :
    ∃ call name edit, root.Entered call ∧ call.MethodName name ∧
      (SourceText.ofString source).Translates (callBytes call name) edit ∧
      d.edits = [⟨edit, "length"⟩] ∧
      ∀ p, root.Contains p → p.IsParenthesized →
        ∃ pair, (SourceText.ofString source).Translates (bytesOf p) pair ∧
          (edit.Clear pair ↔ ¬ AroundCallee call name p) ∧
          (edit.Cuts pair ↔ AroundCallee call name p) := by
  rw [SourceText.lower_eq_recurse] at hlower
  obtain ⟨hnode, callee, hcallee, hsize, hedits⟩ := exists_call_of_reported catalog hds hd hid
  obtain ⟨call, name, property, entered, hname, hproperty, hcallSite, hnameSite⟩ :=
    SourceText.exists_methodName hlower hnode hcallee hsize
  have hcall := Tree.contains_of_entered entered
  have hedit : (SourceText.ofString source).Translates (callBytes call name)
      ⟨property.span.start, d.node.span.stop⟩ :=
    ⟨(SourceText.offset_of_site hnameSite).1, (SourceText.offset_of_site hcallSite).2⟩
  refine ⟨call, name, _, entered, hname, hedit, ?_, fun p hroot hp => ?_⟩
  · rw [hedits, Fix.size, hcallee]
    simp [hproperty]
  · obtain ⟨pair, hpair, hcuts, hclear⟩ := exists_pair_in_characters (laid p hroot) hp hedit
    have cuts : AroundCallee call name p → _ :=
      fun around => hcuts (cuts_of_around laid hcall hname hp around)
    have clear : ¬ AroundCallee call name p → _ :=
      fun around => hclear (clear_of_not_around laid hcall hname hp hroot around)
    refine ⟨pair, hpair, ⟨fun h around => (cuts around).not_clear h, clear⟩, ⟨fun h => ?_, cuts⟩⟩
    by_contra around
    exact h.not_clear (clear around)

/-! ## Two pairs of parentheses -/

/-- The parentheses around the receiver in `(($div).size)();`. -/
def receiverPair : Tree :=
  .node ⟨5, some "object", "parenthesized_expression", 1, 7, 0, 1⟩
    [.node ⟨6, none, "identifier", 2, 6, 0, 2⟩ []]

/-- The access between the parentheses around the callee. -/
def wrappedAccess : Tree :=
  .node ⟨4, none, "member_expression", 1, 12, 0, 1⟩
    [receiverPair, .node ⟨7, some "property", "property_identifier", 8, 12, 0, 8⟩ []]

/-- The parentheses around the callee. -/
def calleePair : Tree :=
  .node ⟨3, some "function", "parenthesized_expression", 0, 13, 0, 0⟩ [wrappedAccess]

def wrappedCall : Tree :=
  .node ⟨2, none, "call_expression", 0, 15, 0, 0⟩
    [calleePair, .node ⟨8, some "arguments", "arguments", 13, 15, 0, 13⟩ []]

/-- The tree of the text `(($div).size)();`. -/
def wrappedScript : Tree :=
  .node ⟨0, none, "program", 0, 16, 0, 0⟩
    [.node ⟨1, none, "expression_statement", 0, 16, 0, 0⟩ [wrappedCall]]

/-- The node of the receiver. -/
def receiverNode : Node := .identifier ⟨6, ⟨2, 6⟩, ⟨1, 2⟩⟩ "$div"

/-- The node of the callee. -/
def calleeNode : Node :=
  .member ⟨4, ⟨1, 12⟩, ⟨1, 1⟩⟩ receiverNode (.identifier ⟨7, ⟨8, 12⟩, ⟨1, 8⟩⟩ "size") false

/-- The node of the call. -/
def wrappedNode : Node := .call ⟨2, ⟨0, 15⟩, ⟨1, 0⟩⟩ (some calleeNode) []

/-- The nodes of the text. -/
def wrappedProgram : Node :=
  .other ⟨0, ⟨0, 16⟩, ⟨1, 0⟩⟩ "Program"
    [.other ⟨1, ⟨0, 16⟩, ⟨1, 0⟩⟩ "ExpressionStatement" [wrappedNode]]

theorem laidOut_wrappedScript : LaidOut "(($div).size)();" wrappedScript := by decide

theorem contains_calleePair : wrappedScript.Contains calleePair :=
  .head (List.mem_singleton.mpr rfl)
    (.head (List.mem_singleton.mpr rfl) (.head (List.mem_cons_self ..) .refl))

theorem contains_receiverPair : wrappedScript.Contains receiverPair :=
  contains_calleePair.trans
    (.head (List.mem_singleton.mpr rfl) (.head (List.mem_cons_self ..) .refl))

section

open SourceText

theorem lower_wrappedScript :
    (ofString "(($div).size)();").lower wrappedScript = .ok wrappedProgram := by
  have hreceiver : (ofString "(($div).size)();").recurse receiverPair = .ok receiverNode :=
    recurse_of_operands (.cons (recurse_of_operands .nil rfl) .nil) rfl
  have haccess : (ofString "(($div).size)();").recurse wrappedAccess = .ok calleeNode :=
    recurse_of_operands (.cons hreceiver (.cons (recurse_of_operands .nil rfl) .nil)) rfl
  have hcallee : (ofString "(($div).size)();").recurse calleePair = .ok calleeNode :=
    recurse_of_operands (.cons haccess .nil) rfl
  have hcall : (ofString "(($div).size)();").recurse wrappedCall = .ok wrappedNode :=
    recurse_of_operands (.cons hcallee .nil) rfl
  rw [lower_eq_recurse]
  exact recurse_of_operands (.cons (recurse_of_operands (.cons hcall .nil) rfl) .nil) rfl

theorem exists_reported_wrappedProgram :
    ∃ ds d, Dispatch.reported Settings.standard.vocabulary wrappedProgram rules (fun _ => []) =
        .ok ds ∧
      d ∈ ds ∧ d.ruleId = "no-size" ∧ d.edits = [⟨⟨8, 15⟩, "length"⟩] := by
  have distinct : wrappedProgram.Distinct := by
    simp [Node.Distinct, wrappedProgram, wrappedNode, calleeNode, receiverNode, Node.nodes_eq,
      Node.children, Node.id, Node.site]
  have complete : wrappedProgram.Complete := by
    intro site arguments
    simp [wrappedProgram, wrappedNode, calleeNode, receiverNode, Node.nodes_eq, Node.children]
  have hcall : wrappedNode ∈ wrappedProgram.nodes := by
    simp [wrappedProgram, wrappedNode, calleeNode, receiverNode, Node.nodes_eq, Node.children]
  -- The receiver matches the pattern, and the callee is a collection because its object is one.
  have hchain : Settings.standard.vocabulary.chain calleeNode true = true := by decide +kernel
  have hconstructor : calleeNode.object?.any Settings.standard.vocabulary.isConstructor = false := by
    decide +kernel
  obtain ⟨ds, d, hds, hd, hreport⟩ := Dispatch.exists_reported_call _ (fun _ => [])
    rules_made distinct complete sizeRule_mem hcall rfl hconstructor rfl hchain
  obtain rfl := Finding.problem.inj hreport
  exact ⟨ds, _, hds, hd, rfl, rfl⟩

theorem translates_receiverPair :
    (ofString "(($div).size)();").Translates (bytesOf receiverPair) ⟨1, 7⟩ :=
  ⟨rfl, rfl⟩

theorem translates_calleePair :
    (ofString "(($div).size)();").Translates (bytesOf calleePair) ⟨0, 13⟩ :=
  ⟨rfl, rfl⟩

/-- The edit gets along with the parentheses around the receiver and cuts those around the callee. -/
theorem size_edit_of_wrappedScript :
    ∃ call name, wrappedScript.Entered call ∧ call.MethodName name ∧
      ¬ AroundCallee call name receiverPair ∧ AroundCallee call name calleePair := by
  obtain ⟨ds, d, hds, hd, hid, hedits⟩ := exists_reported_wrappedProgram
  obtain ⟨call, name, edit, entered, hname, -, hedits', hpairs⟩ :=
    size_edit_clear_iff "(($div).size)();" Settings.standard.vocabulary (fun _ => [])
      laidOut_wrappedScript lower_wrappedScript (fun r hr => hr) hds hd hid
  obtain rfl : edit = ⟨8, 15⟩ := by
    rw [hedits] at hedits'
    simpa using hedits'.symm
  obtain ⟨inner, hinner, hclear, -⟩ := hpairs receiverPair contains_receiverPair rfl
  obtain rfl := translates_receiverPair.unique hinner
  obtain ⟨outer, houter, -, hcuts⟩ := hpairs calleePair contains_calleePair rfl
  obtain rfl := translates_calleePair.unique houter
  refine ⟨call, name, entered, hname, hclear.mp ?_, hcuts.mp ?_⟩
  · exact .inr (.inl (by decide))
  · exact ⟨by decide, by decide, by decide⟩

/-- The parentheses around the callee do not get along with the edit. -/
theorem size_edit_not_clear :
    LaidOut "(($div).size)();" wrappedScript ∧
      (ofString "(($div).size)();").lower wrappedScript = .ok wrappedProgram ∧
      (∃ ds d, Dispatch.reported Settings.standard.vocabulary wrappedProgram rules (fun _ => []) =
          .ok ds ∧ d ∈ ds ∧ d.ruleId = "no-size" ∧ d.edits = [⟨⟨8, 15⟩, "length"⟩]) ∧
      wrappedScript.Contains calleePair ∧ calleePair.IsParenthesized ∧
      (ofString "(($div).size)();").Translates (bytesOf calleePair) ⟨0, 13⟩ ∧
      ¬ Span.Clear ⟨8, 15⟩ ⟨0, 13⟩ := by
  have hcut : Span.Cuts ⟨8, 15⟩ ⟨0, 13⟩ := ⟨by decide, by decide, by decide⟩
  exact ⟨laidOut_wrappedScript, lower_wrappedScript, exists_reported_wrappedProgram,
    contains_calleePair, rfl, translates_calleePair, hcut.not_clear⟩

end

end Catalog

end ChainLint
