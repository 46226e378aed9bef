import ChainLint.Proofs.Concrete.Layout
import ChainLint.Proofs.Tree.PostOrder

/-!
# Syntax nodes nest

Lowering leaves levels of the concrete tree out: parentheses around an expression, the lists that hold
the arguments of calls, comments. It also picks the parts of calls and accesses by their fields, whatever
their place among the children. What remains is in order all the same, if the concrete tree is in order
(`Tree.InOrder`): the operands of a node stand in its range one after the other (`pairwise_operands`), the
node of an operand stands in the range of the operand, and later bytes do not belong to earlier
characters. So the nodes of a text nest (`lower_nests`), wherever in a character a byte range may end.
-/

namespace ChainLint.Concrete

namespace Tree

/-! ## Trees in order -/

/-- The child in the first field ends before the child in the second one begins, if there are both. -/
def FieldsInOrder (t : Tree) (first second : String) : Prop :=
  ∀ c ∈ t.field? first, ∀ d ∈ t.field? second, c.label.endByte ≤ d.label.startByte

instance (t : Tree) (first second : String) : Decidable (t.FieldsInOrder first second) :=
  inferInstanceAs (Decidable (∀ c ∈ t.field? first, ∀ d ∈ t.field? second, _ ≤ _))

/-- What a parser vouches for about the bytes of a node: it begins before it ends, its children stand in
it one after the other, the function of a call comes before the arguments, and the object of an access
before the property or the index. -/
@[mk_iff]
structure InOrder (t : Tree) : Prop extends t.Nested where
  siblings : t.children.Pairwise fun c d => c.label.endByte ≤ d.label.startByte
  call : t.role = .call → t.FieldsInOrder "function" "arguments"
  member : t.role = .member → t.FieldsInOrder "object" "property"
  subscript : t.role = .subscript → t.FieldsInOrder "object" "index"

instance (t : Tree) : Decidable t.InOrder := decidable_of_iff _ t.inOrder_iff.symm

variable {t c : Tree}

theorem nests_of_inOrder (ordered : ∀ u, t.Contains u → u.InOrder) : t.Nests :=
  fun u hu => (ordered u hu).toNested

/-! ## Operands in order -/

/-- The first of two operands ends before the second one begins, if neither is missing. -/
def OperandsInOrder (o p : Option Tree) : Prop :=
  ∀ c ∈ o, ∀ d ∈ p, c.label.endByte ≤ d.label.startByte

theorem pairwise_map_some {ts : List Tree}
    (h : ts.Pairwise fun c d => c.label.endByte ≤ d.label.startByte) :
    (ts.map some).Pairwise OperandsInOrder := by
  refine List.pairwise_map.mpr (h.imp fun hcd => ?_)
  rintro c ⟨⟩ d ⟨⟩
  exact hcd

theorem pairwise_parts (h : t.InOrder) : (t.parts.map some).Pairwise OperandsInOrder :=
  pairwise_map_some (h.siblings.sublist List.filter_sublist)

theorem pairwise_callArguments (ordered : ∀ u, t.Contains u → u.InOrder) :
    (t.callArguments.map some).Pairwise OperandsInOrder := by
  unfold callArguments
  split
  · exact List.Pairwise.nil
  · rename_i list hlist
    split
    · exact pairwise_parts (ordered list (below_of_field? hlist).contains)
    · exact List.pairwise_singleton ..

/-- The function of a call comes before all arguments, also where these have been taken out of a list. -/
theorem function_before_arguments (ordered : ∀ u, t.Contains u → u.InOrder) (role : t.role = .call) :
    ∀ p ∈ t.callArguments.map some, OperandsInOrder (t.field? "function") p := by
  rintro p hp function hfunction argument rfl
  obtain ⟨argument, hargument, ⟨⟩⟩ := List.mem_map.mp hp
  obtain ⟨list, hlist⟩ : ∃ list, t.field? "arguments" = some list := by
    refine Option.ne_none_iff_exists'.mp fun hnone => ?_
    simp only [callArguments, hnone, List.not_mem_nil] at hargument
  have hbefore := (ordered t .refl).call role function hfunction list hlist
  have hinside : list.label.Encloses argument.label :=
    ((nests_of_inOrder ordered).of_contains (below_of_field? hlist).contains).encloses
      (contains_of_mem_callArguments hlist hargument)
  exact Nat.le_trans hbefore hinside.1

theorem pairwise_operands (ordered : ∀ u, t.Contains u → u.InOrder) :
    t.operands.Pairwise OperandsInOrder := by
  have hself := ordered t .refl
  unfold operands
  split
  case h_1 role =>
      exact List.pairwise_cons.mpr
        ⟨function_before_arguments ordered role, pairwise_callArguments ordered⟩
  case h_2 role => exact List.pairwise_pair.mpr (hself.member role)
  case h_3 role => exact List.pairwise_pair.mpr (hself.subscript role)
  case h_10 | h_11 => exact pairwise_parts hself
  all_goals exact List.Pairwise.nil

end Tree

namespace SourceText

/-! ## Nodes in order -/

variable {source : String} {t c d root : Tree} {m k n : Node} {values : List Node}

/-- The node of a tree stands in the range of every label around the tree. -/
theorem span_of_recurse (nests : c.Nests) (h : (ofString source).recurse c = .ok m) {l : Label}
    (hinside : l.Encloses c.label) {site : Site} (hsite : (ofString source).site l = .ok site) :
    site.span.start ≤ m.span.start ∧ m.span.stop ≤ site.span.stop := by
  obtain ⟨l', hinside', -, hsite'⟩ := nests.exists_label_of_recurse h
  have ⟨hstart, hstop⟩ := offset_of_site hsite
  have ⟨hstart', hstop'⟩ := offset_of_site hsite'
  exact ⟨offset_mono (Nat.le_trans hinside.1 hinside'.1) hstart hstart',
    offset_mono (Nat.le_trans hinside'.2 hinside.2) hstop' hstop⟩

/-- Trees that stand one after the other have nodes that do. -/
theorem stop_le_start_of_recurse (hc : c.Nests) (hd : d.Nests)
    (hm : (ofString source).recurse c = .ok m) (hk : (ofString source).recurse d = .ok k)
    (h : c.label.endByte ≤ d.label.startByte) : m.span.stop ≤ k.span.start := by
  obtain ⟨l, hinside, -, hsite⟩ := hc.exists_label_of_recurse hm
  obtain ⟨l', hinside', -, hsite'⟩ := hd.exists_label_of_recurse hk
  have hle : l.endByte ≤ l'.startByte := Nat.le_trans hinside.2 (Nat.le_trans h hinside'.1)
  exact offset_mono hle (offset_of_site hsite).2 (offset_of_site hsite').1

/-- The results of operands that follow each other follow each other. -/
theorem pairwise_of_operands {os : List (Option Tree)} (nests : ∀ c, some c ∈ os → c.Nests)
    (hvalues : List.Forall₂ (fun o m => (ofString source).recurseOperand o = .ok m) os values)
    (hos : os.Pairwise Tree.OperandsInOrder) :
    values.Pairwise fun m k => m.span.stop ≤ k.span.start := by
  induction hvalues with
  | nil => exact List.Pairwise.nil
  | @cons o m os values hm hrest ih =>
      obtain ⟨hbefore, hos⟩ := List.pairwise_cons.mp hos
      have nests' : ∀ c, some c ∈ os → c.Nests := fun c hc => nests c (List.mem_cons_of_mem _ hc)
      refine List.pairwise_cons.mpr ⟨fun k hk => ?_, ih nests' hos⟩
      obtain ⟨c, rfl, hm⟩ := exists_of_recurseOperand hm
      obtain ⟨p, hp, hk⟩ := exists_of_mem_mapM (mapM_eq_ok_iff.mpr hrest) hk
      obtain ⟨d, rfl, hk⟩ := exists_of_recurseOperand hk
      exact stop_le_start_of_recurse (nests c (List.mem_cons_self ..)) (nests' d hp) hm hk
        (hbefore _ hp c rfl d rfl)

/-- The node that is built for a tree in order is nested: its children are the results of the operands. -/
theorem nested_of_built (ordered : ∀ u, t.Contains u → u.InOrder)
    (hvalues : t.operands.mapM (ofString source).recurseOperand = .ok values)
    (built : (ofString source).Built t values m) : m.Nested := by
  have nests : t.Nests := Tree.nests_of_inOrder ordered
  have hoperand : ∀ c, some c ∈ t.operands → t.Contains c :=
    fun c hc => (Tree.below_of_mem_operands hc).contains
  have ⟨hstart, hstop⟩ := offset_of_site built.site_eq
  have hordered : m.span.start ≤ m.span.stop := offset_mono (ordered t .refl).ordered hstart hstop
  rcases built.children_eq with ⟨-, hleaf⟩ | hchildren
  · exact ⟨hordered, by simp [hleaf], by simp [hleaf]⟩
  · refine ⟨hordered, fun k hk => ?_, ?_⟩
    · obtain ⟨o, ho, hk⟩ := exists_of_mem_mapM hvalues (hchildren ▸ hk)
      obtain ⟨c, rfl, hk⟩ := exists_of_recurseOperand hk
      have hc := hoperand c ho
      exact span_of_recurse (nests.of_contains hc) hk (nests.encloses hc) built.site_eq
    · rw [hchildren]
      exact pairwise_of_operands (fun c hc => nests.of_contains (hoperand c hc))
        (mapM_eq_ok_iff.mp hvalues) (Tree.pairwise_operands ordered)

/-- **Syntax nodes nest.** If the concrete tree of a text is in order and can be lowered, every node begins
before it ends, and its children stand in its range, one after the other. -/
theorem lower_nests (source : String) {root : Tree} (ordered : ∀ t, root.Contains t → t.InOrder)
    {n : Node} (h : (ofString source).lower root = .ok n) : n.Nests := by
  intro m hm
  rw [lower_eq_recurse] at h
  obtain ⟨t, values, entered, hvalues, built⟩ := exists_origin_of_mem h hm
  have hcontains := Tree.contains_of_entered entered
  exact nested_of_built (fun u hu => ordered u (hcontains.trans hu)) hvalues built

/-! ## A character in two parts -/

/-- A call in the text `é(/**/(x),y)`. What is called ends, and the list begins, inside the letter. -/
def splitLetter : Tree :=
  .node ⟨0, none, "call_expression", 0, 13, 0, 0⟩
    [.node ⟨1, some "function", "template_string", 0, 1, 0, 0⟩ [],
      .node ⟨2, some "arguments", "arguments", 1, 13, 0, 1⟩
        [.node ⟨3, none, "comment", 3, 7, 0, 3⟩ [],
          .node ⟨4, none, "parenthesized_expression", 7, 10, 0, 7⟩
            [.node ⟨5, none, "identifier", 8, 9, 0, 8⟩ []],
          .node ⟨6, none, "identifier", 11, 12, 0, 11⟩ []]]

def splitLetterNode : Node :=
  .call ⟨0, ⟨0, 12⟩, ⟨1, 0⟩⟩ (some (.other ⟨1, ⟨0, 0⟩, ⟨1, 0⟩⟩ "TemplateLiteral" []))
    [.identifier ⟨5, ⟨7, 8⟩, ⟨1, 7⟩⟩ "x", .identifier ⟨6, ⟨10, 11⟩, ⟨1, 10⟩⟩ "y"]

theorem lower_splitLetter : (ofString "é(/**/(x),y)").lower splitLetter = .ok splitLetterNode := by
  have hpair : (ofString "é(/**/(x),y)").recurse
      (.node ⟨4, none, "parenthesized_expression", 7, 10, 0, 7⟩
        [.node ⟨5, none, "identifier", 8, 9, 0, 8⟩ []]) =
      .ok (.identifier ⟨5, ⟨7, 8⟩, ⟨1, 7⟩⟩ "x") :=
    recurse_of_operands (.cons (recurse_of_operands .nil rfl) .nil) rfl
  rw [lower_eq_recurse]
  exact recurse_of_operands
    (.cons (recurse_of_operands .nil rfl) (.cons hpair (.cons (recurse_of_operands .nil rfl) .nil))) rfl

theorem lower_nests_splitLetter :
    (∀ t, splitLetter.Contains t → t.InOrder) ∧
      (ofString "é(/**/(x),y)").lower splitLetter = .ok splitLetterNode ∧ splitLetterNode.Nests :=
  ⟨by decide, lower_splitLetter, lower_nests "é(/**/(x),y)" (by decide) lower_splitLetter⟩

end SourceText

end ChainLint.Concrete
