import ChainLint.Proofs.Concrete.Layout
import ChainLint.Proofs.Dispatch.Independence

/-!
# Where the fixes change a text

Three rules of the catalog repair what they report, the calls of a method by its name. The fixes replace
this name, and one of them all that follows it; where that is they take from the nodes, without a look at
the text. What makes it the right place is the order of a call's parts in the text: the receiver, the name
of the method, and behind a parenthesis the arguments (`CallOrder`). This order is read off the concrete
tree (`callOrder_of_writes`). It is all that is needed to see that the edits follow each other behind the
receiver (`Edit.Fit`) and that arguments are left as they are (`Edit.Spares`).
-/

namespace ChainLint

open Text Utf8

/-! ## Edits in order -/

/-- The edit replaces no character of the range. -/
def Edit.Spares (e : Edit) (span : Span) : Prop :=
  ∀ k, e.span.start ≤ k → k < e.span.stop → ¬ (span.start ≤ k ∧ k < span.stop)

/-- The edits stand in the range of a call, none of them before the end of its receiver, and they follow
each other. -/
structure Edit.Fit (edits : List Edit) (call receiver : Span) : Prop where
  inside : ∀ e ∈ edits,
    call.start ≤ e.span.start ∧ e.span.start ≤ e.span.stop ∧ e.span.stop ≤ call.stop
  increasing : edits.Pairwise fun e f => e.span.start < f.span.start ∧ e.span.stop ≤ f.span.start
  behind : ∀ e ∈ edits, receiver.stop ≤ e.span.start

/-- The parts of a method call follow each other: the receiver, the name, a parenthesis, the arguments and
another parenthesis. -/
structure CallOrder (call receiver name : Node) : Prop where
  start : call.span.start ≤ name.span.start
  behind : receiver.span.stop ≤ name.span.start
  nonempty : name.span.start < name.span.stop
  parentheses : name.span.stop + 2 ≤ call.span.stop
  arguments : ∀ a ∈ call.arguments,
    name.span.stop ≤ a.span.start ∧ a.span.start ≤ call.span.stop

namespace Fix

variable {id text : String} {call callee receiver name : Node}

theorem size_eq (hcallee : call.memberCallee? = some callee)
    (hname : callee.property? = some name) :
    size id call = [⟨⟨name.span.start, call.span.stop⟩, "length"⟩] := by
  rw [size, hcallee, Option.bind_some, hname]

theorem andSelf_eq (hcallee : call.memberCallee? = some callee)
    (hname : callee.property? = some name) : andSelf id call = [⟨name.span, "addBack"⟩] := by
  rw [andSelf, hcallee, Option.bind_some, hname]
  rfl

theorem eventShorthand_cons {first : Node} {rest : List Node}
    (hcallee : call.memberCallee? = some callee) (hname : callee.property? = some name)
    (htext : callee.propertyName? = some text) (harguments : call.arguments = first :: rest) :
    eventShorthand id call =
      [⟨name.span, "on"⟩,
        ⟨⟨first.span.start, first.span.start⟩, JsonString.encode text ++ ", "⟩] := by
  simp only [eventShorthand, hcallee, hname, htext, harguments]
  rfl

theorem eventShorthand_nil (hcallee : call.memberCallee? = some callee)
    (hname : callee.property? = some name) (htext : callee.propertyName? = some text)
    (harguments : call.arguments = []) :
    eventShorthand id call =
      [⟨name.span, "trigger"⟩,
        ⟨⟨call.span.stop - 1, call.span.stop - 1⟩, JsonString.encode text⟩] := by
  simp only [eventShorthand, hcallee, hname, htext, harguments]
  rfl

/-- One edit fits that begins with the name and does not go beyond the call. -/
theorem fit_from_name (order : CallOrder call receiver name) (new : String) {stop : Int}
    (hstop : name.span.start ≤ stop) (hinside : stop ≤ call.span.stop) :
    Edit.Fit [⟨⟨name.span.start, stop⟩, new⟩] call.span receiver.span := by
  refine ⟨?_, List.pairwise_singleton .., ?_⟩
  · simp only [List.mem_singleton, forall_eq]
    exact ⟨order.start, hstop, hinside⟩
  · simp only [List.mem_singleton, forall_eq]
    exact order.behind

/-- The name of a method is replaced, by whatever text. -/
theorem fit_replace (order : CallOrder call receiver name) (new : String) :
    Edit.Fit [⟨name.span, new⟩] call.span receiver.span ∧
      ∀ a ∈ call.arguments, Edit.Spares ⟨name.span, new⟩ a.span := by
  have hparentheses := order.parentheses
  have hinside : name.span.stop ≤ call.span.stop := by omega
  refine ⟨fit_from_name order new (Int.le_of_lt order.nonempty) hinside, fun a ha k _ hk => ?_⟩
  have hbehind := (order.arguments a ha).1
  dsimp only at hk
  omega

/-- A text is put in behind the name as well. -/
theorem fit_replace_insert (order : CallOrder call receiver name) (new inserted : String) {k : Int}
    (hbehind : name.span.stop ≤ k) (hinside : k ≤ call.span.stop) :
    Edit.Fit [⟨name.span, new⟩, ⟨⟨k, k⟩, inserted⟩] call.span receiver.span ∧
      ∀ e ∈ [⟨name.span, new⟩, (⟨⟨k, k⟩, inserted⟩ : Edit)], ∀ a ∈ call.arguments,
        e.Spares a.span := by
  obtain ⟨fit, spares⟩ := fit_replace order new
  have hstart := order.start
  have hreceiver := order.behind
  have hname := order.nonempty
  refine ⟨⟨?_, ?_, ?_⟩, ?_⟩
  · refine List.forall_mem_cons.mpr ⟨fit.inside _ (List.mem_cons_self ..), ?_⟩
    simp only [List.mem_singleton, forall_eq]
    omega
  · refine List.pairwise_pair.mpr ⟨?_, hbehind⟩
    dsimp only
    omega
  · refine List.forall_mem_cons.mpr ⟨fit.behind _ (List.mem_cons_self ..), ?_⟩
    simp only [List.mem_singleton, forall_eq]
    omega
  · refine List.forall_mem_cons.mpr ⟨spares, ?_⟩
    simp only [List.mem_singleton, forall_eq]
    intro a _ m hm hm'
    dsimp only at hm hm'
    omega

/-- The edits of the fix fit into every method call whose parts follow each other. Where it keeps the
arguments, they are spared. -/
def Fits (fix : Fix) (id : String) (keeps : Prop) : Prop :=
  ∀ {call callee receiver name : Node} {text : String}, call.memberCallee? = some callee →
    callee.property? = some name → callee.propertyName? = some text →
    CallOrder call receiver name →
    Edit.Fit (fix id call) call.span receiver.span ∧
      (keeps → ∀ e ∈ fix id call, ∀ a ∈ call.arguments, e.Spares a.span)

theorem fits_size {keeps : Prop} (h : ¬ keeps) : size.Fits id keeps := by
  intro call callee receiver name text hcallee hname _ order
  rw [size_eq hcallee hname]
  have hnonempty := order.nonempty
  have hparentheses := order.parentheses
  exact ⟨fit_from_name order "length" (by omega) (Int.le_refl _), fun keeps => absurd keeps h⟩

theorem fits_andSelf {keeps : Prop} : andSelf.Fits id keeps := by
  intro call callee receiver name text hcallee hname _ order
  rw [andSelf_eq hcallee hname]
  obtain ⟨fit, spares⟩ := fit_replace order "addBack"
  exact ⟨fit, fun _ => by simpa only [List.mem_singleton, forall_eq] using spares⟩

/-- The event is named in front of the first argument, or in front of the last character of the call. -/
theorem fits_eventShorthand {keeps : Prop} : eventShorthand.Fits id keeps := by
  intro call callee receiver name text hcallee hname htext order
  match harguments : call.arguments with
  | [] =>
      rw [eventShorthand_nil hcallee hname htext harguments]
      have hparentheses := order.parentheses
      obtain ⟨fit, -⟩ := fit_replace_insert order "trigger" (JsonString.encode text)
        (k := call.span.stop - 1) (by omega) (by omega)
      exact ⟨fit, fun _ _ _ a ha => by cases ha⟩
  | first :: rest =>
      rw [eventShorthand_cons hcallee hname htext harguments, ← harguments]
      obtain ⟨hbehind, hinside⟩ := order.arguments first (harguments ▸ List.mem_cons_self ..)
      obtain ⟨fit, spares⟩ := fit_replace_insert order "on" _ hbehind hinside
      exact ⟨fit, fun _ => spares⟩

end Fix

/-! ## The parts of a call in the text -/

namespace Concrete

/-- The bytes of the label are those of the characters from `a` to `b`. -/
@[mk_iff]
structure Covers (source : String) (l : Label) (a b : Nat) : Prop where
  start : a ≤ source.toList.length ∧ l.startByte = byteOffset source.toList a
  stop : b ≤ source.toList.length ∧ l.endByte = byteOffset source.toList b

/-- The label covers so many characters or more. -/
def CoversAtLeast (source : String) (l : Label) (count : Nat) : Prop :=
  ∃ a b, Covers source l a b ∧ a + count ≤ b

/-- The list of arguments stands behind the function, up to the end of the call, and has room for two
parentheses. -/
@[mk_iff]
structure EndsCall (source : String) (call list : Tree) : Prop where
  behind : ∀ function ∈ call.field? "function", function.label.endByte ≤ list.label.startByte
  last : list.label.endByte = call.label.endByte
  parentheses : CoversAtLeast source list.label 2

/-- What a parser vouches for about the place of a node and of the parts that accesses and calls have:
the ends of the node are between characters, its children stand in it, the property of an access stands
behind the object, and a call ends with the list of its arguments. -/
@[mk_iff]
structure Arranged (source : String) (t : Tree) : Prop extends t.Nested where
  characters : CoversAtLeast source t.label 0
  access : t.role = .member → ∀ object ∈ t.field? "object", ∀ property ∈ t.field? "property",
    object.label.endByte ≤ property.label.startByte
  call : t.role = .call → ∃ list ∈ t.field? "arguments", EndsCall source t list

instance (source : String) (l : Label) (a b : Nat) : Decidable (Covers source l a b) :=
  decidable_of_iff _ (covers_iff source l a b).symm

theorem coversAtLeast_iff {source : String} {l : Label} {count : Nat} :
    CoversAtLeast source l count ↔
      ∃ a ∈ List.range (source.toList.length + 1), ∃ b ∈ List.range (source.toList.length + 1),
        Covers source l a b ∧ a + count ≤ b := by
  constructor
  · rintro ⟨a, b, covers, hle⟩
    exact ⟨a, List.mem_range.mpr (Nat.lt_succ_of_le covers.start.1), b,
      List.mem_range.mpr (Nat.lt_succ_of_le covers.stop.1), covers, hle⟩
  · rintro ⟨a, -, b, -, h⟩
    exact ⟨a, b, h⟩

instance (source : String) (l : Label) (count : Nat) : Decidable (CoversAtLeast source l count) :=
  decidable_of_iff _ coversAtLeast_iff.symm

instance (source : String) (call list : Tree) : Decidable (EndsCall source call list) :=
  decidable_of_iff _ (endsCall_iff source call list).symm

instance (source : String) (t : Tree) : Decidable (Arranged source t) :=
  decidable_of_iff _ (arranged_iff source t).symm

variable {source : String}

theorem Covers.translates {l : Label} {a b : Nat} (h : Covers source l a b) :
    (SourceText.ofString source).Translates ⟨l.startByte, l.endByte⟩ ⟨a, b⟩ := by
  rw [h.start.2, h.stop.2]
  exact ⟨SourceText.offset_byteOffset source h.start.1, SourceText.offset_byteOffset source h.stop.1⟩

theorem Covers.span_eq {l : Label} {a b : Nat} (h : Covers source l a b) {site : Site}
    (hsite : (SourceText.ofString source).site l = .ok site) : site.span = ⟨a, b⟩ := by
  have hspan : (SourceText.ofString source).Translates ⟨l.startByte, l.endByte⟩ site.span :=
    SourceText.offset_of_site hsite
  exact hspan.unique h.translates

theorem Covers.text_eq {l : Label} {a b : Nat} (h : Covers source l a b) {text : List Char}
    (htext : (SourceText.ofString source).textOf l = .ok text) :
    (source.toList.take b).drop a = text := by
  rw [SourceText.textOf, h.start.2, h.stop.2, SourceText.slice_byteOffset] at htext
  exact Except.ok.inj htext

section

variable {root : Tree} (arranged : ∀ t, root.Contains t → Arranged source t) {w : MethodCall}
  {call receiver name : Node} {text : String} (hcall : root.Contains w.call)
  (writes : w.Writes (SourceText.ofString source) call receiver name text)

include arranged

theorem nests_of_arranged : root.Nests := fun t ht => (arranged t ht).toNested

include hcall writes

/-- The text of the name is that of the method. -/
theorem exists_name_in_text :
    ∃ a b : Nat, name.span = ⟨a, b⟩ ∧ b ≤ source.toList.length ∧
      (source.toList.take b).drop a = text.toList := by
  obtain ⟨a, b, covers, -⟩ :=
    (arranged w.name (hcall.trans writes.methodName.below.contains)).characters
  exact ⟨a, b, covers.span_eq writes.siteName, covers.stop.1, covers.text_eq writes.spelled⟩

theorem receiver_stop_le : receiver.span.stop ≤ name.span.start := by
  have nests := (nests_of_arranged arranged).of_contains hcall
  -- The node is smaller than what is written, if the receiver stands in parentheses.
  obtain ⟨l, hinside, -, hsite⟩ :=
    (nests.of_contains writes.contains_receiver).exists_label_of_recurse writes.lowered
  have hbehind := (arranged w.access (hcall.trans writes.contains_access)).access writes.plain _
    writes.object _ writes.property
  have hkey := (nests.of_contains writes.contains_key).encloses
    (Tree.contains_of_wraps writes.wrapsName)
  have hle : l.endByte ≤ w.name.label.startByte :=
    Nat.le_trans hinside.2 (Nat.le_trans hbehind hkey.1)
  exact SourceText.offset_mono (by omega) (SourceText.offset_of_site hsite).2
    (SourceText.offset_of_site writes.siteName).1

section

variable {list : Tree} (hlist : w.call.field? "arguments" = some list)
  (ends : EndsCall source w.call list) {a b : Nat} (covers : Covers source list.label a b)

include ends covers

theorem name_stop_le : name.span.stop ≤ a := by
  have nests := (nests_of_arranged arranged).of_contains hcall
  have hinside :=
    (nests.of_contains writes.contains_function).encloses writes.function_contains_name
  have hle : w.name.label.endByte ≤ list.label.startByte :=
    Nat.le_trans hinside.2 (ends.behind _ writes.function)
  exact SourceText.offset_mono hle (SourceText.offset_of_site writes.siteName).2 covers.translates.1

omit arranged hcall in
theorem call_stop_eq : call.span.stop = b := by
  have hcall := (SourceText.offset_of_site writes.site).2
  rw [← ends.last] at hcall
  exact Except.ok.inj (hcall.symm.trans covers.translates.2)

include hlist

/-- The arguments begin in the list. -/
theorem argument_start_le {argument : Node} (h : argument ∈ call.arguments) :
    a ≤ argument.span.start ∧ argument.span.start ≤ call.span.stop := by
  have nests := (nests_of_arranged arranged).of_contains hcall
  have toList : w.call.Contains list := (Tree.below_of_field? hlist).contains
  obtain ⟨c, hc, lowered⟩ := exists_of_mem_mapM (mapM_eq_ok_iff.mpr writes.arguments) h
  have toArgument : list.Contains c := Tree.contains_of_mem_callArguments hlist hc
  obtain ⟨l, ⟨hstart, hstop⟩, hordered, hsite⟩ :=
    (nests.of_contains (toList.trans toArgument)).exists_label_of_recurse lowered
  obtain ⟨hlistStart, hlistStop⟩ := (nests.of_contains toList).encloses toArgument
  have hlast := ends.last
  obtain ⟨hargument, -⟩ := SourceText.offset_of_site hsite
  exact ⟨SourceText.offset_mono (by omega) covers.translates.1 hargument,
    SourceText.offset_mono (by omega) hargument (SourceText.offset_of_site writes.site).2⟩

end

/-- The nodes of a method call follow each other as its trees do in the text. -/
theorem callOrder_of_writes (htext : text ≠ "") : CallOrder call receiver name := by
  have nests := (nests_of_arranged arranged).of_contains hcall
  obtain ⟨list, hlist, ends⟩ := (arranged w.call hcall).call writes.role
  obtain ⟨i, j, covers, hroom⟩ := ends.parentheses
  have hname := name_stop_le arranged hcall writes ends covers
  have hstop := call_stop_eq writes ends covers
  refine ⟨?_, receiver_stop_le arranged hcall writes, ?_, by omega, fun a ha => ?_⟩
  · exact SourceText.offset_mono (nests.encloses writes.methodName.below.contains).1
      (SourceText.offset_of_site writes.site).1 (SourceText.offset_of_site writes.siteName).1
  · -- A name that ended where it begins would be empty.
    obtain ⟨a, b, hspan, -, hname⟩ := exists_name_in_text arranged hcall writes
    rw [hspan]
    by_contra hlt
    have hle : b ≤ a := Int.ofNat_le.mp (Int.not_lt.mp hlt)
    rw [List.drop_of_length_le (by rw [List.length_take]; omega)] at hname
    exact htext (String.toList_eq_nil_iff.mp hname.symm)
  · obtain ⟨hle, hstop⟩ := argument_start_le arranged hcall writes hlist ends covers ha
    exact ⟨Int.le_trans hname hle, hstop⟩

end

end Concrete

/-! ## The rules that repair calls

The three rules stand in the catalog under their names. What is proved of a rule on collection methods
does not ask which of them it is. -/

namespace Catalog

open Concrete

/-- What a rule on collection methods reports is a call of one of its methods, and what repairs it is
the fix of the rule. -/
theorem exists_method_of_reported {id : String} {names : List String} {message : Option Message}
    {o : RuleOptions} (hrule : (id, .collectionMethod names message o) ∈ Catalog.rules)
    {v : Vocabulary} {n : Node} {rules : List (String × Rule)} {options : OptionsTable}
    (catalog : ∀ r ∈ rules, r ∈ Catalog.rules) {ds : List Diagnostic}
    (hds : Dispatch.reported v n rules options = .ok ds) {d : Diagnostic} (hd : d ∈ ds)
    (hid : d.ruleId = id) :
    d.node ∈ n.nodes ∧ d.fix? = (o.fix?.map fun fix => fix id d.node) ∧
      ∃ callee text, d.node.memberCallee? = some callee ∧ callee.propertyName? = some text ∧
        text ∈ names := by
  obtain ⟨h, hhandler, hnode, hfinds⟩ :=
    Dispatch.exists_finding_of_reported hrule catalog hds hd hid
  obtain ⟨callee, text, hcalled, -, -, -, hreport⟩ :=
    (Rule.collectionMethod_finds_iff hhandler).mp hfinds
  obtain ⟨hcallee, htext, hmem⟩ := Rule.calledMethod?_eq_some hcalled
  have hfix := congrArg Diagnostic.fix? (Finding.problem.inj hreport)
  exact ⟨hnode, hfix, callee, text, hcallee, htext, hmem⟩

def andSelfRule : String × Rule :=
  ("no-and-self",
    .collectionMethod ["andSelf"] (fixed "Prefer `.addBack` to `.andSelf`") (repairing Fix.andSelf))

def eventShorthandRule : String × Rule :=
  ("no-event-shorthand",
    .collectionMethod eventShorthands (made eventShorthandMessage) (repairing Fix.eventShorthand))

def sizeRule : String × Rule :=
  ("no-size",
    .collectionMethod ["size"] (fixed "Prefer `.length` to `.size`") (repairing Fix.size))

theorem andSelfRule_mem : andSelfRule ∈ rules := by simp [andSelfRule, rules]

theorem eventShorthandRule_mem : eventShorthandRule ∈ rules := by simp [eventShorthandRule, rules]

theorem sizeRule_mem : sizeRule ∈ rules := by simp [sizeRule, rules]

/-- The rules that repair calls, with their methods and fixes. -/
theorem exists_repairing_rule {id : String}
    (hid : id ∈ ["no-and-self", "no-event-shorthand", "no-size"]) :
    ∃ names message fix, (id, .collectionMethod names message (repairing fix)) ∈ Catalog.rules ∧
      "" ∉ names ∧ fix.Fits id (id ≠ "no-size") := by
  simp only [List.mem_cons, List.not_mem_nil, or_false] at hid
  rcases hid with rfl | rfl | rfl
  · exact ⟨_, _, _, andSelfRule_mem, by decide, Fix.fits_andSelf⟩
  · exact ⟨_, _, _, eventShorthandRule_mem, by decide, Fix.fits_eventShorthand⟩
  · exact ⟨_, _, _, sizeRule_mem, by decide, Fix.fits_size fun h => h rfl⟩

/-- **Fixes are well placed.** In the tree of a text that is arranged as a parser's trees are, the rules
with a fix report calls of methods, and their edits stand in the range of the call and behind its
receiver, one after the other. The text of the name they replace is that of the method, and the edits
that do not give up the arguments leave all characters of the arguments as they are. -/
theorem edits_in_place (source : String) (v : Vocabulary) (options : OptionsTable) {root : Tree}
    (arranged : ∀ t, root.Contains t → Arranged source t) {n : Node}
    (hlower : (SourceText.ofString source).lower root = .ok n) {rules : List (String × Rule)}
    (catalog : ∀ r ∈ rules, r ∈ Catalog.rules) {ds : List Diagnostic}
    (hds : Dispatch.reported v n rules options = .ok ds) {d : Diagnostic} (hd : d ∈ ds)
    (hid : d.ruleId ∈ ["no-and-self", "no-event-shorthand", "no-size"]) :
    d.node ∈ n.nodes ∧ ∃ callee receiver name text, d.node.memberCallee? = some callee ∧
      callee.object? = some receiver ∧ callee.property? = some name ∧
      callee.propertyName? = some text ∧ Edit.Fit d.edits d.node.span receiver.span ∧
      (∃ a b : Nat, name.span = ⟨a, b⟩ ∧ b ≤ source.toList.length ∧
        (source.toList.take b).drop a = text.toList) ∧
      (d.ruleId ≠ "no-size" → ∀ e ∈ d.edits, ∀ a ∈ d.node.arguments, e.Spares a.span) := by
  obtain ⟨names, message, fix, hrule, hnames, fits⟩ := exists_repairing_rule hid
  obtain ⟨hnode, hfix, callee, text, hcallee, htext, hmem⟩ :=
    exists_method_of_reported hrule catalog hds hd rfl
  rw [SourceText.lower_eq_recurse] at hlower
  obtain ⟨w, receiver, name, entered, hobject, hproperty, writes⟩ :=
    SourceText.exists_methodCall hlower hnode hcallee htext
  have hcall := Tree.contains_of_entered entered
  have hne : text ≠ "" := fun h => hnames (h ▸ hmem)
  have hedits : d.edits = fix d.ruleId d.node := by
    rw [Diagnostic.edits, hfix]
    rfl
  obtain ⟨fit, spares⟩ := fits hcallee hproperty htext (callOrder_of_writes arranged hcall writes hne)
  rw [← hedits] at fit spares
  exact ⟨hnode, callee, receiver, name, text, hcallee, hobject, hproperty, htext, fit,
    exists_name_in_text arranged hcall writes, spares⟩

/-! ## A call without arguments -/

/-- The callee in `$é.click();`. -/
def accentAccess : Tree :=
  .node ⟨3, some "function", "member_expression", 0, 9, 0, 0⟩
    [.node ⟨4, some "object", "identifier", 0, 3, 0, 0⟩ [],
      .node ⟨5, some "property", "property_identifier", 4, 9, 0, 4⟩ []]

def accentList : Tree := .node ⟨6, some "arguments", "arguments", 9, 11, 0, 9⟩ []

def accentCall : Tree := .node ⟨2, none, "call_expression", 0, 11, 0, 0⟩ [accentAccess, accentList]

/-- The tree of the text `$é.click();`. -/
def accentScript : Tree :=
  .node ⟨0, none, "program", 0, 12, 0, 0⟩
    [.node ⟨1, none, "expression_statement", 0, 12, 0, 0⟩ [accentCall]]

def accentCallee : Node :=
  .member ⟨3, ⟨0, 8⟩, ⟨1, 0⟩⟩ (.identifier ⟨4, ⟨0, 2⟩, ⟨1, 0⟩⟩ "$é")
    (.identifier ⟨5, ⟨3, 8⟩, ⟨1, 3⟩⟩ "click") false

def accentNode : Node := .call ⟨2, ⟨0, 10⟩, ⟨1, 0⟩⟩ (some accentCallee) []

/-- The nodes of the text. -/
def accentProgram : Node :=
  .other ⟨0, ⟨0, 11⟩, ⟨1, 0⟩⟩ "Program"
    [.other ⟨1, ⟨0, 11⟩, ⟨1, 0⟩⟩ "ExpressionStatement" [accentNode]]

section

open SourceText

theorem lower_accentScript : (ofString "$é.click();").lower accentScript = .ok accentProgram := by
  have haccess : (ofString "$é.click();").recurse accentAccess = .ok accentCallee :=
    recurse_of_operands
      (.cons (recurse_of_operands .nil rfl) (.cons (recurse_of_operands .nil rfl) .nil)) rfl
  have hcall : (ofString "$é.click();").recurse accentCall = .ok accentNode :=
    recurse_of_operands (.cons haccess .nil) rfl
  rw [lower_eq_recurse]
  exact recurse_of_operands (.cons (recurse_of_operands (.cons hcall .nil) rfl) .nil) rfl

theorem arranged_accentScript : ∀ t, accentScript.Contains t → Arranged "$é.click();" t := by decide

theorem distinct_accentProgram : accentProgram.Distinct := by
  simp [Node.Distinct, accentProgram, accentNode, accentCallee, Node.nodes_eq, Node.children, Node.id,
    Node.site]

theorem complete_accentProgram : accentProgram.Complete := by
  intro site arguments
  simp [accentProgram, accentNode, accentCallee, Node.nodes_eq, Node.children]

theorem accentNode_mem_nodes : accentNode ∈ accentProgram.nodes := by
  simp [accentProgram, accentNode, accentCallee, Node.nodes_eq, Node.children]

theorem chain_accentCallee : Settings.standard.vocabulary.chain accentCallee true = true := by
  decide +kernel

theorem not_isConstructor_accentCallee :
    accentCallee.object?.any Settings.standard.vocabulary.isConstructor = false := by
  decide +kernel

theorem exists_reported_accentNode {rules : List (String × Rule)} (options : OptionsTable)
    (made : ∀ r ∈ rules, r.2.Made) (hrule : eventShorthandRule ∈ rules)
    (hallows : Rule.allows (Dispatch.contextOf Settings.standard.vocabulary (.ofRoot accentProgram)
      options "no-event-shorthand") accentNode = false) :
    ∃ ds d, Dispatch.reported Settings.standard.vocabulary accentProgram rules options = .ok ds ∧
      d ∈ ds ∧ d.ruleId = "no-event-shorthand" ∧ d.node = accentNode ∧
      d.edits = [⟨⟨3, 8⟩, "trigger"⟩, ⟨⟨9, 9⟩, "\"click\""⟩] := by
  have hedits : Fix.eventShorthand "no-event-shorthand" accentNode =
      [⟨⟨3, 8⟩, "trigger"⟩, ⟨⟨9, 9⟩, "\"click\""⟩] := by decide
  obtain ⟨ds, d, hds, hd, hreport⟩ := Dispatch.exists_reported_call _ options made
    distinct_accentProgram complete_accentProgram hrule accentNode_mem_nodes rfl
    not_isConstructor_accentCallee hallows chain_accentCallee
  obtain rfl := Finding.problem.inj hreport
  exact ⟨ds, _, hds, hd, rfl, rfl, hedits⟩

theorem exists_reported_accentProgram :
    ∃ ds d, Dispatch.reported Settings.standard.vocabulary accentProgram rules (fun _ => []) =
        .ok ds ∧ d ∈ ds ∧ d.ruleId = "no-event-shorthand" ∧ d.node = accentNode ∧
      d.edits = [⟨⟨3, 8⟩, "trigger"⟩, ⟨⟨9, 9⟩, "\"click\""⟩] :=
  exists_reported_accentNode _ rules_made eventShorthandRule_mem rfl

/-- The name becomes `trigger`, and the event stands between the parentheses. -/
theorem edits_in_place_of_accentScript :
    ∃ ds d, Dispatch.reported Settings.standard.vocabulary accentProgram rules (fun _ => []) =
        .ok ds ∧ d ∈ ds ∧ d.edits = [⟨⟨3, 8⟩, "trigger"⟩, ⟨⟨9, 9⟩, "\"click\""⟩] ∧
      Edit.Fit d.edits ⟨0, 10⟩ ⟨0, 2⟩ := by
  obtain ⟨ds, d, hds, hd, hid, hnode, hedits⟩ := exists_reported_accentProgram
  obtain ⟨-, callee, receiver, name, text, hcallee, hreceiver, -, -, fit, -, -⟩ :=
    edits_in_place "$é.click();" Settings.standard.vocabulary (fun _ => []) arranged_accentScript
      lower_accentScript (fun r hr => hr) hds hd (by rw [hid]; decide)
  rw [hnode] at hcallee fit
  obtain rfl := Option.some.inj hcallee
  obtain rfl := Option.some.inj hreceiver
  exact ⟨ds, d, hds, hd, hedits, fit⟩

end

end Catalog

end ChainLint
