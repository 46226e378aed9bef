import ChainLint.Proofs.Rule.Repairs

/-!
# Where the fix of event methods names the event

A call that binds a handler, like `.click(handler)`, becomes `.on("click", handler)`: the name of the
event is put in where the node of the first argument begins. A node knows nothing of parentheses, and so
this is the beginning of the first argument only if the argument does not stand in parentheses of its own
(`EventPlace`). Of `.click((handler))` the fix makes `.on(("click", handler))`, which binds nothing. Nor is
there a list of arguments to put the name in where the call is a tagged template.

The place is found in bytes, between the parentheses of the list (`Bracketed`), and passes to characters.
-/

namespace ChainLint

open Text Utf8

/-! ## The text after edits -/

namespace Edit

/-- The text in which the edit is made. -/
def apply (e : Edit) (cs : List Char) : List Char :=
  cs.take e.span.start.toNat ++ e.text.toList ++ cs.drop e.span.stop.toNat

/-- The text in which edits are made that follow each other. The last one comes first, so that the places
of the others stay true. -/
def applyAll (edits : List Edit) (cs : List Char) : List Char := edits.foldr apply cs

/-- A name is replaced, and behind it a text is put in. -/
theorem applyAll_replace_insert {cs : List Char} {a b k : Nat} (hab : a ≤ b) (hbk : b ≤ k)
    (hb : b ≤ cs.length) (new inserted : String) :
    applyAll [⟨⟨a, b⟩, new⟩, ⟨⟨k, k⟩, inserted⟩] cs =
      cs.take a ++ new.toList ++ (cs.take k).drop b ++ inserted.toList ++ cs.drop k := by
  have hlength : b ≤ (cs.take k).length := by
    rw [List.length_take]
    omega
  simp only [applyAll, List.foldr_cons, List.foldr_nil, apply, Int.toNat_natCast]
  rw [List.append_assoc (cs.take k), List.take_append_of_le_length (Nat.le_trans hab hlength),
    List.drop_append_of_le_length hlength, List.take_take, Nat.min_eq_left (Nat.le_trans hab hbk)]
  simp only [List.append_assoc]

end Edit

/-- The position is in the range, and not at one of its ends. -/
def Span.Inside (span : Span) (k : Int) : Prop := span.start < k ∧ k < span.stop

theorem Span.Inside.start_ne {span : Span} {k : Int} (h : span.Inside k) : span.start ≠ k :=
  Int.ne_of_lt h.1

namespace Concrete

open ChainLint.Concrete.Tree

/-! ## Between parentheses -/

/-- The node begins with an opening parenthesis, ends with a closing one, and has its children between
the two. -/
@[mk_iff]
structure Bracketed (source : String) (t : Tree) : Prop where
  opening : (encode source.toList)[t.label.startByte]? = some 0x28
  closing : t.label.startByte + 1 < t.label.endByte ∧
    (encode source.toList)[t.label.endByte - 1]? = some 0x29
  between : ∀ c ∈ t.children,
    t.label.startByte < c.label.startByte ∧ c.label.endByte < t.label.endByte

instance (source : String) (t : Tree) : Decidable (Bracketed source t) :=
  decidable_of_iff _ (bracketed_iff source t).symm

/-- What a parser vouches for about a tree: it is laid out and arranged in its text, and the lists of
arguments stand in parentheses. -/
structure WellFormed (source : String) (root : Tree) : Prop where
  laid : LaidOut source root
  arranged : ∀ t, root.Contains t → Arranged source t
  lists : ∀ t, root.Contains t → t.kind = "arguments" → Bracketed source t

variable {source : String} {root t c first inner list : Tree} {k : Nat}

theorem WellPlaced.bracketed (h : WellPlaced source t) (hp : t.IsParenthesized) :
    Bracketed source t :=
  ⟨h.opening hp, h.closing hp, h.between hp⟩

theorem isParenthesized_of_role (h : t.role = .parentheses) : t.IsParenthesized :=
  Tree.kind_of_role_parentheses h

/-- What begins between the parentheses in bytes does so in characters. -/
theorem Bracketed.exists_inside (h : Bracketed source t) {l : Label}
    (hstart : t.label.startByte < l.startByte) (hordered : l.startByte ≤ l.endByte)
    (hstop : l.endByte < t.label.endByte)
    (hk : (SourceText.ofString source).offset l.startByte = .ok k) :
    ∃ pair, (SourceText.ofString source).Translates (bytesOf t) pair ∧ pair.Inside k := by
  obtain ⟨pair, hpair, hopening, hclosing⟩ := SourceText.exists_parentheses h.opening h.closing
  have hafter := SourceText.offset_mono (by omega) hopening hk
  have hbefore := SourceText.offset_mono (by omega) hk hclosing
  exact ⟨pair, hpair, by omega, by omega⟩

theorem CoversAtLeast.exists_translates {count : Nat} (h : CoversAtLeast source t.label count) :
    ∃ a b : Nat, (SourceText.ofString source).Translates (bytesOf t) ⟨a, b⟩ := by
  obtain ⟨a, b, covers, -⟩ := h
  exact ⟨a, b, covers.translates⟩

/-! ## The place of the event -/

section

variable (formed : WellFormed source root) (hfirst : root.Contains first) (wraps : first.Wraps inner)
  (bare : ∀ c, ¬ inner.Around c)

include formed hfirst wraps bare

/-- A tree without parentheses around it is its own inside; otherwise the inside stands strictly between
two parentheses. -/
theorem wraps_cases :
    inner = first ∧ (∀ c, ¬ first.Around c) ∨
      (∃ c, first.Around c) ∧ first.IsParenthesized ∧
        first.label.startByte < inner.label.startByte ∧ inner.label.endByte < first.label.endByte := by
  rcases Relation.ReflTransGen.cases_head wraps with rfl | ⟨c, around, -⟩
  · exact .inl ⟨rfl, bare⟩
  · have hp := isParenthesized_of_role around.1
    have hne : inner ≠ first := by
      rintro rfl
      exact bare c around
    have hbelow := below_of_contains_ne (contains_of_wraps wraps) hne
    exact .inr ⟨⟨c, around⟩, hp, (formed.laid.of_contains hfirst).between hp hbelow⟩

variable (hk : (SourceText.ofString source).offset inner.label.startByte = .ok k)

include hk

/-- The inside begins strictly inside of the tree if and only if there are parentheses around it. -/
theorem exists_inside_iff :
    ∃ span, (SourceText.ofString source).Translates (bytesOf first) span ∧
      (span.Inside k ↔ ∃ c, first.Around c) ∧ (span.start = k ↔ ∀ c, ¬ first.Around c) := by
  rcases wraps_cases formed hfirst wraps bare with ⟨rfl, hno⟩ | ⟨hyes, hp, hstart, hstop⟩
  -- Without parentheses the two begin at the same byte, with them there is a parenthesis between.
  · obtain ⟨a, b, hspan⟩ := (formed.arranged _ hfirst).characters.exists_translates
    have hstart : (a : Int) = k := Except.ok.inj (hspan.1.symm.trans hk)
    exact ⟨_, hspan, ⟨fun hinside => absurd hstart hinside.start_ne,
      fun ⟨c, around⟩ => absurd around (hno c)⟩, fun _ => hno, fun _ => hstart⟩
  · have hinner := hfirst.trans (contains_of_wraps wraps)
    obtain ⟨pair, hpair, hinside⟩ :=
      ((formed.laid _ hfirst).bracketed hp).exists_inside hstart
        (formed.arranged _ hinner).ordered hstop hk
    obtain ⟨c, around⟩ := hyes
    exact ⟨pair, hpair, ⟨fun _ => ⟨c, around⟩, fun _ => hinside⟩,
      fun h => absurd h hinside.start_ne, fun hno => absurd around (hno c)⟩

/-- Of the children of a list that the first argument belongs to, no other has the place of the event
inside of it. -/
theorem exists_inside_child_iff (hlist : root.Contains list) (hmem : first ∈ list.children)
    (hc : c ∈ list.children) :
    ∃ span, (SourceText.ofString source).Translates (bytesOf c) span ∧
      (span.Inside k ↔ c = first ∧ ∃ e, first.Around e) := by
  by_cases hcf : c = first
  · subst hcf
    obtain ⟨span, hspan, hinside, -⟩ := exists_inside_iff formed hfirst wraps bare hk
    exact ⟨span, hspan, fun h => ⟨rfl, hinside.mp h⟩, fun h => hinside.mpr h.2⟩
  · obtain ⟨a, b, hspan⟩ :=
      (formed.arranged c (hlist.trans (.single hc))).characters.exists_translates
    refine ⟨_, hspan, fun hinside => ?_, fun h => absurd h.1 hcf⟩
    obtain ⟨hstart, hstop⟩ :=
      (formed.laid.of_contains hfirst).encloses (contains_of_wraps wraps)
    have hordered := (formed.arranged inner (hfirst.trans (contains_of_wraps wraps))).ordered
    rcases (formed.laid.of_contains hlist).siblings_apart hc hmem hcf with hbefore | hafter
    · have hle := SourceText.offset_mono (Nat.le_trans hbefore hstart) hspan.2 hk
      exact absurd hinside.2 (Int.not_lt.mpr hle)
    · have hinner : inner.label.startByte ≤ c.label.startByte :=
        Nat.le_trans hordered (Nat.le_trans hstop hafter)
      have hle := SourceText.offset_mono hinner hk hspan.1
      exact absurd hinside.1 (Int.not_lt.mpr hle)

end

/-- A position in a list of arguments: it is strictly between the parentheses of the list, and strictly
inside one of the children only if this is the first argument and stands in parentheses. -/
structure InList (source : String) (list first : Tree) (k : Int) : Prop where
  head : list.parts.head? = some first
  between : ∃ pair, (SourceText.ofString source).Translates (bytesOf list) pair ∧ pair.Inside k
  children : ∀ c ∈ list.children, ∃ span,
    (SourceText.ofString source).Translates (bytesOf c) span ∧
      (span.Inside k ↔ c = first ∧ ∃ e, first.Around e)

/-- The arguments of a call are the parts of its list, if this is a list. -/
theorem callArguments_cases {call : Tree} (hlist : call.field? "arguments" = some list) :
    list.kind = "arguments" ∧ call.callArguments = list.parts ∨
      list.kind ≠ "arguments" ∧ call.callArguments = [list] := by
  unfold callArguments
  rw [hlist]
  dsimp only
  split
  · exact .inl ⟨‹_›, rfl⟩
  · exact .inr ⟨‹_›, rfl⟩

/-- The first argument of a call, as it is written and without the parentheses around it. There its node
begins. -/
theorem exists_first_argument (formed : WellFormed source root) {w : MethodCall}
    {call receiver name : Node} {text : String} (hcall : root.Contains w.call)
    (writes : w.Writes (SourceText.ofString source) call receiver name text) {argument : Node}
    {rest : List Node} (hargument : call.arguments = argument :: rest) :
    ∃ (first : Tree) (trees : List Tree) (inner : Tree) (k stop : Nat),
      w.call.callArguments = first :: trees ∧ root.Contains first ∧ first.Wraps inner ∧
      (∀ c, ¬ inner.Around c) ∧ argument.span = ⟨k, stop⟩ ∧
      (SourceText.ofString source).offset inner.label.startByte = .ok k := by
  have hwritten := writes.arguments
  rw [hargument] at hwritten
  obtain ⟨first, trees, lowered, -, htrees⟩ := List.forall₂_cons_right_iff.mp hwritten
  obtain ⟨inner, wraps, bare, hsite⟩ := SourceText.exists_unwrapped lowered
  have hfirst : root.Contains first :=
    hcall.trans (below_of_mem_callArguments (htrees ▸ List.mem_cons_self ..)).contains
  obtain ⟨k, stop, covers, -⟩ :=
    (formed.arranged inner (hfirst.trans (contains_of_wraps wraps))).characters
  have hspan : argument.span = ⟨k, stop⟩ := covers.span_eq hsite
  refine ⟨first, trees, inner, k, stop, htrees, hfirst, wraps, bare, hspan, ?_⟩
  rw [(SourceText.offset_of_site hsite).1]
  exact congrArg (fun span : Span => Except.ok span.start) hspan

theorem inList_of_wraps (formed : WellFormed source root) (hlist : root.Contains list)
    (hkind : list.kind = "arguments") (hhead : list.parts.head? = some first)
    (wraps : first.Wraps inner) (bare : ∀ c, ¬ inner.Around c)
    (hk : (SourceText.ofString source).offset inner.label.startByte = .ok k) :
    InList source list first k := by
  have hmem : first ∈ list.children := (List.mem_filter.mp (List.mem_of_head? hhead)).1
  have hfirst := hlist.trans (.single hmem)
  refine ⟨hhead, ?_, fun c hc =>
    exists_inside_child_iff formed hfirst wraps bare hk hlist hmem hc⟩
  have bracketed := formed.lists list hlist hkind
  obtain ⟨hstart, hstop⟩ := bracketed.between first hmem
  have hencloses := (formed.laid.of_contains hfirst).encloses (contains_of_wraps wraps)
  have hordered := (formed.arranged inner (hfirst.trans (contains_of_wraps wraps))).ordered
  exact bracketed.exists_inside (Nat.lt_of_lt_of_le hstart hencloses.1) hordered
    (Nat.lt_of_le_of_lt hencloses.2 hstop) hk

end Concrete

/-! ## The fix of the rule -/

namespace Catalog

open Concrete

/-- A diagnostic whose edits replace the name of the method and put the name of the event in at a
position, with the text that this makes. -/
structure NamesEvent (source : String) (d : Diagnostic) (name : Node) (text : String) (k : Nat) :
    Prop where
  edits : d.edits = [⟨name.span, "on"⟩, ⟨⟨k, k⟩, JsonString.encode text ++ ", "⟩]
  edited : ∃ a b : Nat, name.span = ⟨a, b⟩ ∧ (source.toList.take b).drop a = text.toList ∧
    Edit.applyAll d.edits source.toList =
      source.toList.take a ++ "on".toList ++ (source.toList.take k).drop b ++
        (JsonString.encode text ++ ", ").toList ++ source.toList.drop k

theorem namesEvent_of_order {source : String} {d : Diagnostic} {id : String}
    {callee receiver name argument : Node} {rest : List Node} {text : String} {k stop : Nat}
    (hfix : d.fix? = some (Fix.eventShorthand id d.node)) (hcallee : d.node.memberCallee? = some callee)
    (hname : callee.property? = some name) (htext : callee.propertyName? = some text)
    (order : CallOrder d.node receiver name) (hargument : d.node.arguments = argument :: rest)
    (hspan : argument.span = ⟨k, stop⟩)
    (spelled : ∃ a b : Nat, name.span = ⟨a, b⟩ ∧ b ≤ source.toList.length ∧
      (source.toList.take b).drop a = text.toList) :
    NamesEvent source d name text k := by
  obtain ⟨a, b, hnameSpan, hb, hspelled⟩ := spelled
  have hedits : d.edits = [⟨name.span, "on"⟩, ⟨⟨k, k⟩, JsonString.encode text ++ ", "⟩] := by
    rw [Diagnostic.edits, hfix, Option.getD_some,
      Fix.eventShorthand_cons hcallee hname htext hargument, hspan]
  have hnonempty := order.nonempty
  have hbehind := (order.arguments argument (hargument ▸ List.mem_cons_self ..)).1
  rw [hnameSpan] at hnonempty hbehind
  rw [hspan] at hbehind
  dsimp only at hnonempty hbehind
  refine ⟨hedits, a, b, hnameSpan, hspelled, ?_⟩
  rw [hedits, hnameSpan]
  exact Edit.applyAll_replace_insert (by omega) (by omega) hb _ _

/-- **Where the fix of event methods names the event.** In a well-formed tree the rule reports calls of
event methods; in a call with arguments the name of the event is put in where the first argument begins
if this does not stand in parentheses of its own, and inside of the argument if it does. If the call has a
list of arguments, the place is strictly between the parentheses of the list and inside of no other child.
If it has none, it is a tagged template, and the one argument is the template. -/
theorem event_edit_place (source : String) (v : Vocabulary) (options : OptionsTable) {root : Tree}
    (formed : WellFormed source root) {n : Node}
    (hlower : (SourceText.ofString source).lower root = .ok n) {rules : List (String × Rule)}
    (catalog : ∀ r ∈ rules, r ∈ Catalog.rules) {ds : List Diagnostic}
    (hds : Dispatch.reported v n rules options = .ok ds) {d : Diagnostic} (hd : d ∈ ds)
    (hid : d.ruleId = "no-event-shorthand") (harguments : d.node.arguments ≠ []) :
    ∃ (w : MethodCall) (receiver name : Node) (text : String) (list first : Tree) (span : Span)
      (k : Nat), root.Entered w.call ∧
      w.Writes (SourceText.ofString source) d.node receiver name text ∧ text ∈ eventShorthands ∧
      w.call.field? "arguments" = some list ∧ w.call.callArguments.head? = some first ∧
      NamesEvent source d name text k ∧
      (SourceText.ofString source).Translates (bytesOf first) span ∧
      (span.start = k ↔ ∀ c, ¬ first.Around c) ∧ (span.Inside k ↔ ∃ c, first.Around c) ∧
      (list.kind = "arguments" → InList source list first k) ∧
      (list.kind ≠ "arguments" → first = list) := by
  obtain ⟨hnode, hfix, callee, text, hcallee, htext, hmem⟩ :=
    exists_method_of_reported eventShorthandRule_mem catalog hds hd hid
  rw [SourceText.lower_eq_recurse] at hlower
  obtain ⟨w, receiver, name, entered, -, hproperty, writes⟩ :=
    SourceText.exists_methodCall hlower hnode hcallee htext
  have hcall := Tree.contains_of_entered entered
  have hne : text ≠ "" := by
    rintro rfl
    exact absurd hmem (by decide)
  obtain ⟨argument, rest, hargument⟩ := List.exists_cons_of_ne_nil harguments
  obtain ⟨first, trees, inner, k, stop, htrees, hfirst, wraps, bare, hspan, hk⟩ :=
    exists_first_argument formed hcall writes hargument
  have names : NamesEvent source d name text k :=
    namesEvent_of_order hfix hcallee hproperty htext
      (callOrder_of_writes formed.arranged hcall writes hne) hargument hspan
      (exists_name_in_text formed.arranged hcall writes)
  obtain ⟨span, htranslates, hinside, hstart⟩ := exists_inside_iff formed hfirst wraps bare hk
  obtain ⟨list, hlist, -⟩ := (formed.arranged w.call hcall).call writes.role
  refine ⟨w, receiver, name, text, list, first, span, k, entered, writes, hmem, hlist,
    by rw [htrees]; rfl, names, htranslates, hstart, hinside, ?_⟩
  rcases callArguments_cases hlist with ⟨hkind, hparts⟩ | ⟨hkind, hone⟩
  · have hhead : list.parts.head? = some first := by
      rw [← hparts, htrees]
      rfl
    have hcontains := hcall.trans (Tree.below_of_field? hlist).contains
    exact ⟨fun _ => inList_of_wraps formed hcontains hkind hhead wraps bare hk,
      fun hno => absurd hkind hno⟩
  · rw [htrees] at hone
    exact ⟨fun hyes => absurd hyes hkind, fun _ => (List.cons.inj hone).1⟩

/-! ## A handler in parentheses -/

/-- The first argument in `$div.click((fn));`. -/
def handlerPair : Tree :=
  .node ⟨7, none, "parenthesized_expression", 11, 15, 0, 11⟩
    [.node ⟨8, none, "identifier", 12, 14, 0, 12⟩ []]

def handlerList : Tree := .node ⟨6, some "arguments", "arguments", 10, 16, 0, 10⟩ [handlerPair]

def handlerAccess : Tree :=
  .node ⟨3, some "function", "member_expression", 0, 10, 0, 0⟩
    [.node ⟨4, some "object", "identifier", 0, 4, 0, 0⟩ [],
      .node ⟨5, some "property", "property_identifier", 5, 10, 0, 5⟩ []]

def handlerCall : Tree := .node ⟨2, none, "call_expression", 0, 16, 0, 0⟩ [handlerAccess, handlerList]

/-- The tree of the text `$div.click((fn));`. -/
def handlerScript : Tree :=
  .node ⟨0, none, "program", 0, 17, 0, 0⟩
    [.node ⟨1, none, "expression_statement", 0, 17, 0, 0⟩ [handlerCall]]

def handlerCallee : Node :=
  .member ⟨3, ⟨0, 10⟩, ⟨1, 0⟩⟩ (.identifier ⟨4, ⟨0, 4⟩, ⟨1, 0⟩⟩ "$div")
    (.identifier ⟨5, ⟨5, 10⟩, ⟨1, 5⟩⟩ "click") false

def handlerNode : Node :=
  .call ⟨2, ⟨0, 16⟩, ⟨1, 0⟩⟩ (some handlerCallee) [.identifier ⟨8, ⟨12, 14⟩, ⟨1, 12⟩⟩ "fn"]

/-- The nodes of the text. -/
def handlerProgram : Node :=
  .other ⟨0, ⟨0, 17⟩, ⟨1, 0⟩⟩ "Program"
    [.other ⟨1, ⟨0, 17⟩, ⟨1, 0⟩⟩ "ExpressionStatement" [handlerNode]]

section

open SourceText

theorem wellFormed_handlerScript : WellFormed "$div.click((fn));" handlerScript where
  laid := by decide
  arranged := by decide
  lists := by decide

theorem lower_handlerScript :
    (ofString "$div.click((fn));").lower handlerScript = .ok handlerProgram := by
  have haccess : (ofString "$div.click((fn));").recurse handlerAccess = .ok handlerCallee :=
    recurse_of_operands
      (.cons (recurse_of_operands .nil rfl) (.cons (recurse_of_operands .nil rfl) .nil)) rfl
  have hpair : (ofString "$div.click((fn));").recurse handlerPair =
      .ok (.identifier ⟨8, ⟨12, 14⟩, ⟨1, 12⟩⟩ "fn") :=
    recurse_of_operands (.cons (recurse_of_operands .nil rfl) .nil) rfl
  have hcall : (ofString "$div.click((fn));").recurse handlerCall = .ok handlerNode :=
    recurse_of_operands (.cons haccess (.cons hpair .nil)) rfl
  rw [lower_eq_recurse]
  exact recurse_of_operands (.cons (recurse_of_operands (.cons hcall .nil) rfl) .nil) rfl

theorem exists_reported_handlerProgram :
    ∃ ds d, Dispatch.reported Settings.standard.vocabulary handlerProgram rules (fun _ => []) =
        .ok ds ∧ d ∈ ds ∧ d.ruleId = "no-event-shorthand" ∧ d.node = handlerNode ∧
      d.edits = [⟨⟨5, 10⟩, "on"⟩, ⟨⟨12, 12⟩, "\"click\", "⟩] := by
  have distinct : handlerProgram.Distinct := by
    simp [Node.Distinct, handlerProgram, handlerNode, handlerCallee, Node.nodes_eq, Node.children,
      Node.id, Node.site]
  have complete : handlerProgram.Complete := by
    intro site arguments
    simp [handlerProgram, handlerNode, handlerCallee, Node.nodes_eq, Node.children]
  have hcall : handlerNode ∈ handlerProgram.nodes := by
    simp [handlerProgram, handlerNode, handlerCallee, Node.nodes_eq, Node.children]
  have hchain : Settings.standard.vocabulary.chain handlerCallee true = true := by decide +kernel
  have hconstructor :
      handlerCallee.object?.any Settings.standard.vocabulary.isConstructor = false := by
    decide +kernel
  obtain ⟨ds, d, hds, hd, hreport⟩ := Dispatch.exists_reported_call _ (fun _ => [])
    rules_made distinct complete eventShorthandRule_mem hcall rfl hconstructor rfl hchain
  obtain rfl := Finding.problem.inj hreport
  exact ⟨ds, _, hds, hd, rfl, rfl, by decide⟩

/-- The event is named at the first argument, which is in parentheses if and only if the place is inside
of it. -/
theorem event_edit_place_of_handlerScript :
    ∃ call list first span, handlerScript.Entered call ∧ call.field? "arguments" = some list ∧
      call.callArguments.head? = some first ∧
      (ofString "$div.click((fn));").Translates (bytesOf first) span ∧
      (span.Inside 12 ↔ ∃ c, first.Around c) ∧
      (list.kind = "arguments" → InList "$div.click((fn));" list first 12) := by
  obtain ⟨ds, d, hds, hd, hid, hnode, hedits⟩ := exists_reported_handlerProgram
  obtain ⟨w, receiver, name, text, list, first, span, k, entered, -, -, hlist, hhead, names, hspan, -,
      hinside, hinList, -⟩ :=
    event_edit_place "$div.click((fn));" Settings.standard.vocabulary (fun _ => [])
      wellFormed_handlerScript lower_handlerScript (fun r hr => hr) hds hd hid (by rw [hnode]; nofun)
  obtain rfl : k = 12 := by
    have h := names.edits
    rw [hedits] at h
    simp only [List.cons.injEq, Edit.mk.injEq, Span.mk.injEq] at h
    omega
  exact ⟨w.call, list, first, span, entered, hlist, hhead, hspan, hinside, hinList⟩

/-- The event is named inside of the first argument, and what is bound is the value of a comma. -/
theorem event_edit_inside_argument :
    WellFormed "$div.click((fn));" handlerScript ∧
      (ofString "$div.click((fn));").lower handlerScript = .ok handlerProgram ∧
      (∃ ds d, Dispatch.reported Settings.standard.vocabulary handlerProgram rules (fun _ => []) =
          .ok ds ∧ d ∈ ds ∧ d.ruleId = "no-event-shorthand" ∧ d.node = handlerNode ∧
        d.edits = [⟨⟨5, 10⟩, "on"⟩, ⟨⟨12, 12⟩, "\"click\", "⟩]) ∧
      handlerCall.field? "arguments" = some handlerList ∧
      handlerList.parts.head? = some handlerPair ∧
      (ofString "$div.click((fn));").Translates (bytesOf handlerPair) ⟨11, 15⟩ ∧
      Span.Inside ⟨11, 15⟩ 12 ∧
      Edit.applyAll [⟨⟨5, 10⟩, "on"⟩, ⟨⟨12, 12⟩, "\"click\", "⟩] "$div.click((fn));".toList =
        "$div.on((\"click\", fn));".toList := by
  have hinside : Span.Inside ⟨11, 15⟩ 12 := ⟨by decide, by decide⟩
  exact ⟨wellFormed_handlerScript, lower_handlerScript, exists_reported_handlerProgram, rfl, rfl,
    ⟨rfl, rfl⟩, hinside, by decide⟩

end

end Catalog

end ChainLint
