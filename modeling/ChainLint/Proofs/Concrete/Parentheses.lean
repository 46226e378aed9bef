import ChainLint.Lint
import ChainLint.Proofs.Concrete.Recursion

/-!
# Parentheses are transparent

A pair of parentheses around one expression has no node of its own. So pairs may be put around the root
of a tree and around any of its operands, together with comments, and the tree is lowered as before: to
the same nodes at the same positions, or with the same failure. What is linted are the nodes, and so the
answers of the classifier and the diagnostics stay the same too.

An insertion changes a tree in one place (`Insertion`). Its effect is followed from that place up to the
root: a tree whose operand was wrapped is lowered as before (`alike_of_operand`), and so is a tree with
such a tree among its children (`Alike.below`). On the way up it is not enough to know that a tree is
lowered as before, since the list of arguments of a call is never lowered itself; its parts are
(`Alike`).
-/

namespace ChainLint.Concrete

namespace Tree

/-! ## Insertions -/

/-- The tree in another field of its parent. -/
def inField (t : Tree) (field : Option String) : Tree :=
  .node { t.label with field? := field } t.children

/-- The first tree is a pair of parentheses in the place of the second one, which stands between them
together with comments. What is said of the second tree's field is said of the pair. -/
structure Parenthesizes (p t : Tree) : Prop where
  kind : p.kind = "parenthesized_expression"
  field : p.label.field? = t.label.field?
  inner : ∃ field before after, p.children = before ++ t.inField field :: after ∧
    ∀ c ∈ before ++ after, c.kind = "comment"
  noComment : t.kind ≠ "comment"

/-- Parentheses are put around an operand of the tree, or of a tree below it. -/
inductive InsertionBelow : Tree → Tree → Prop
  | operand {label : Label} (left : List Tree) {right : List Tree} {t p : Tree}
      (selected : some t ∈ (node label (left ++ t :: right)).operands) (pair : p.Parenthesizes t) :
      InsertionBelow (node label (left ++ t :: right)) (node label (left ++ p :: right))
  | within {label : Label} (left : List Tree) {right : List Tree} {c d : Tree} (h : InsertionBelow c d) :
      InsertionBelow (node label (left ++ c :: right)) (node label (left ++ d :: right))

/-- Parentheses are put around the root, or around an operand somewhere in the tree. -/
inductive Insertion : Tree → Tree → Prop
  | root {t p : Tree} (pair : p.Parenthesizes t) : Insertion t p
  | below {t u : Tree} (h : InsertionBelow t u) : Insertion t u

/-! ## A child is replaced -/

section

variable {label : Label} {left right : List Tree} {c d : Tree}

/-- A field holds what it held, unless it held the child that is replaced. -/
theorem field?_replace (hfield : c.label.field? = d.label.field?) (name : String) :
    (node label (left ++ c :: right)).field? name = (node label (left ++ d :: right)).field? name ∨
      (node label (left ++ c :: right)).field? name = some c ∧
        (node label (left ++ d :: right)).field? name = some d := by
  simp only [field?, children, List.find?_append, List.find?_cons, ← hfield]
  cases left.find? (fun c => c.label.field? == some name) with
  | some found => exact .inl rfl
  | none =>
      cases c.label.field? == some name with
      | true => exact .inr ⟨rfl, rfl⟩
      | false => exact .inl rfl

/-- What is read off the parts stays the same if it is the same of the child that is replaced. -/
theorem map_parts_replace {β : Type} {f : Tree → β} (hf : f c = f d)
    (hcomment : c.kind = "comment" ↔ d.kind = "comment") :
    (node label (left ++ c :: right)).parts.map f =
      (node label (left ++ d :: right)).parts.map f := by
  have hhead : ((c :: right).filter fun c => c.kind != "comment").map f =
      ((d :: right).filter fun c => c.kind != "comment").map f := by
    by_cases hc : c.kind = "comment"
    · rw [List.filter_cons_of_neg (by simp [hc]),
        List.filter_cons_of_neg (by simp [hcomment.mp hc])]
    · rw [List.filter_cons_of_pos (by simp [hc]),
        List.filter_cons_of_pos (by simp [mt hcomment.mpr hc]), List.map_cons, List.map_cons, hf]
  simp only [parts, children, List.filter_append, List.map_append, hhead]

/-- The arguments that the child in the field of the arguments stands for. -/
def asArguments (list : Tree) : List Tree :=
  if list.kind = "arguments" then list.parts else [list]

theorem callArguments_eq (t : Tree) :
    t.callArguments = ((t.field? "arguments").map asArguments).getD [] := by
  unfold callArguments
  cases t.field? "arguments" <;> rfl

end

/-- A list of arguments is no operand of its call: the function stands in another field, and the arguments
stand in the list. -/
theorem notMem_operands_of_list {u t : Tree} (hcall : u.role = .call)
    (hlist : u.field? "arguments" = some t) (hkind : t.kind = "arguments") :
    some t ∉ u.operands := by
  intro h
  rw [operands, hcall, callArguments_eq, hlist] at h
  rcases List.mem_cons.mp h with hfunction | hargument
  · have hfields := (label_of_field? hfunction.symm).symm.trans (label_of_field? hlist)
    exact absurd hfields (by decide)
  · obtain ⟨u, hu, ⟨⟩⟩ := List.mem_map.mp hargument
    rw [Option.map_some, Option.getD_some, asArguments, if_pos hkind] at hu
    exact Nat.lt_irrefl _ (size_lt_of_below (below_of_mem_parts hu))

end Tree

open ChainLint.Concrete.Tree

namespace SourceText

variable {s : SourceText} {label : Label} {left right : List Tree} {c d t p : Tree}

/-- The operands are lowered as before, if that is true of the child that is replaced; where this child
is the list of arguments, it has to be true of what the list stands for. -/
theorem map_operands_replace (hfield : c.label.field? = d.label.field?)
    (hcomment : c.kind = "comment" ↔ d.kind = "comment") (hnode : s.recurse c = s.recurse d)
    (hlist : (node label (left ++ c :: right)).role = .call →
      (node label (left ++ c :: right)).field? "arguments" = some c →
        (asArguments c).map s.recurse = (asArguments d).map s.recurse) :
    (node label (left ++ c :: right)).operands.map s.recurseOperand =
      (node label (left ++ d :: right)).operands.map s.recurseOperand := by
  have hoperand : ∀ name,
      s.recurseOperand ((node label (left ++ c :: right)).field? name) =
        s.recurseOperand ((node label (left ++ d :: right)).field? name) := by
    intro name
    rcases field?_replace hfield name with h | ⟨hc, hd⟩
    · rw [h]
    · rw [hc, hd, recurseOperand, recurseOperand, hnode]
  have hsome : ∀ ts : List Tree, (ts.map some).map s.recurseOperand = ts.map s.recurse := by
    intro ts
    rw [List.map_map]
    rfl
  have harguments : (node label (left ++ c :: right)).role = .call →
      (node label (left ++ c :: right)).callArguments.map s.recurse =
        (node label (left ++ d :: right)).callArguments.map s.recurse := by
    intro hcall
    rw [callArguments_eq, callArguments_eq]
    rcases field?_replace hfield "arguments" with h | ⟨hc, hd⟩
    · rw [h]
    · rw [hc, hd]
      exact hlist hcall hc
  have hparts : (node label (left ++ c :: right)).parts.map s.recurse =
      (node label (left ++ d :: right)).parts.map s.recurse := map_parts_replace hnode hcomment
  have hrole : ∀ cs, (node label cs).role = Role.ofKind label.kind := fun _ => rfl
  rw [hrole] at harguments
  simp only [operands, hrole]
  cases h : Role.ofKind label.kind with
  | call => simp only [List.map_cons, hsome, hoperand, harguments h]
  | member | subscript => simp only [List.map_cons, List.map_nil, hoperand]
  | parentheses | construct => rw [hsome, hsome, hparts]
  | name | text | number | truth | null | regex => rfl

/-- A node is built from its label, and from its operands or the fragments of its text. -/
theorem build_congr {cs ds : List Tree} (values : List Node)
    (htext : Role.ofKind label.kind = .text → s.stringValue cs = s.stringValue ds) :
    s.build (node label cs) values = s.build (node label ds) values := by
  have hrole : ∀ cs, (node label cs).role = Role.ofKind label.kind := fun _ => rfl
  by_cases h : Role.ofKind label.kind = .text
  · simp only [build, hrole, h, children, htext h]
    rfl
  · unfold build
    rw [hrole, hrole]
    generalize Role.ofKind label.kind = role at h
    -- The lines of the definition look at the number of operands.
    cases role with
    | text => exact absurd rfl h
    | _ => rcases values with _ | ⟨a, _ | ⟨b, _ | ⟨c, rest⟩⟩⟩ <;> rfl

theorem recurse_congr {cs ds : List Tree}
    (hoperands : (node label cs).operands.map s.recurseOperand =
      (node label ds).operands.map s.recurseOperand)
    (htext : Role.ofKind label.kind = .text → s.stringValue cs = s.stringValue ds) :
    s.recurse (node label cs) = s.recurse (node label ds) := by
  have hmapM : ∀ os : List (Option Tree),
      os.mapM s.recurseOperand = (os.map s.recurseOperand).mapM id := by
    intro os
    rw [List.mapM_map]
    rfl
  have hbuild : s.build (node label cs) = s.build (node label ds) :=
    funext fun values => build_congr values htext
  rw [recurse_eq, recurse_eq, hmapM, hmapM, hoperands, hbuild]

/-! ## Around an operand -/

/-- It does not matter for the node of a tree in which field of its parent it stands. -/
theorem recurse_inField (s : SourceText) (t : Tree) (field : Option String) :
    s.recurse (t.inField field) = s.recurse t := by
  cases t with
  | node label children =>
      rw [recurse_eq, recurse_eq]
      rfl

/-- The node of a pair of parentheses is that of the tree between them. -/
theorem recurse_of_parenthesizes (s : SourceText) (pair : p.Parenthesizes t) :
    s.recurse p = s.recurse t := by
  obtain ⟨field, before, after, hchildren, hcomments⟩ := pair.inner
  have hrole : p.role = .parentheses := by
    rw [Tree.role, pair.kind]
    rfl
  have hno : ∀ cs : List Tree, (∀ c ∈ cs, c.kind = "comment") →
      cs.filter (fun c => c.kind != "comment") = [] := by
    intro cs hcs
    exact List.filter_eq_nil_iff.mpr fun c hc => by simp [hcs c hc]
  have hparts : p.parts = [t.inField field] := by
    have hkeep : (t.inField field).kind ≠ "comment" := pair.noComment
    rw [parts, hchildren, List.filter_append, List.filter_cons_of_pos (by simpa using hkeep),
      hno before fun c hc => hcomments c (List.mem_append_left _ hc),
      hno after fun c hc => hcomments c (List.mem_append_right _ hc)]
    rfl
  have around : p.Around (t.inField field) := ⟨hrole, by rw [operands, hrole, hparts]; rfl⟩
  rw [recurse_of_around s around, recurse_inField]

/-- The two trees are lowered in the same way wherever the one stands in the place of the other: by
themselves, as a fragment of a text, and as the list of arguments of a call. -/
structure Alike (s : SourceText) (c d : Tree) : Prop where
  label : c.label = d.label
  node : s.recurse c = s.recurse d
  parts : c.parts.map s.recurse = d.parts.map s.recurse

/-- A fragment of a text is read off its label. -/
theorem fragmentPoints_congr (s : SourceText) (h : c.label = d.label) :
    s.fragmentPoints c = s.fragmentPoints d := by
  unfold fragmentPoints fragment Tree.kind
  rw [h]

/-- A tree is lowered as before if one of its children is replaced by a tree that is lowered alike. -/
theorem alike_within (h : Alike s c d) :
    Alike s (node label (left ++ c :: right)) (node label (left ++ d :: right)) := by
  have hkind : c.kind = d.kind := congrArg Label.kind h.label
  have hcomment : c.kind = "comment" ↔ d.kind = "comment" := by rw [hkind]
  have hlist : (asArguments c).map s.recurse = (asArguments d).map s.recurse := by
    rw [asArguments, asArguments, hkind]
    split
    · exact h.parts
    · rw [List.map_singleton, List.map_singleton, h.node]
  have htext : s.stringValue (left ++ c :: right) = s.stringValue (left ++ d :: right) := by
    simp only [stringValue, List.mapM_append, List.mapM_cons, s.fragmentPoints_congr h.label]
  refine ⟨rfl, ?_, map_parts_replace h.node hcomment⟩
  exact recurse_congr
    (map_operands_replace (congrArg Label.field? h.label) hcomment h.node fun _ _ => hlist)
    fun _ => htext

/-- A tree is lowered as before if one of its operands is put in parentheses. If the operand stands in the
field of the arguments, it is the text of a tagged template, and so is the pair around it. -/
theorem alike_of_operand (s : SourceText)
    (selected : some t ∈ (node label (left ++ t :: right)).operands) (pair : p.Parenthesizes t) :
    Alike s (node label (left ++ t :: right)) (node label (left ++ p :: right)) := by
  have hnode := s.recurse_of_parenthesizes pair
  have hkind : p.kind ≠ "comment" := by
    rw [pair.kind]
    decide
  have hcomment : t.kind = "comment" ↔ p.kind = "comment" :=
    iff_of_false pair.noComment hkind
  have htagged : (node label (left ++ t :: right)).role = .call →
      (node label (left ++ t :: right)).field? "arguments" = some t →
        (asArguments t).map s.recurse = (asArguments p).map s.recurse := by
    intro hcall hlist
    have hpair : asArguments p = [p] := if_neg (by rw [pair.kind]; decide)
    by_cases hkind : t.kind = "arguments"
    · exact absurd selected (notMem_operands_of_list hcall hlist hkind)
    · rw [hpair, asArguments, if_neg hkind, List.map_singleton, List.map_singleton, hnode]
  have htext : Role.ofKind label.kind ≠ .text := by
    intro h
    rw [operands, show (node label (left ++ t :: right)).role = .text from h] at selected
    cases selected
  refine ⟨rfl, ?_, map_parts_replace hnode.symm hcomment⟩
  exact recurse_congr (map_operands_replace pair.field.symm hcomment hnode.symm htagged)
    fun h => absurd h htext

/-! ## Anywhere in the tree -/

theorem alike_of_insertionBelow (s : SourceText) (h : InsertionBelow c d) : Alike s c d := by
  induction h with
  | operand _ selected pair => exact s.alike_of_operand selected pair
  | within _ _ ih => exact alike_within ih

theorem recurse_of_insertion (s : SourceText) (h : Insertion c d) : s.recurse d = s.recurse c := by
  cases h with
  | root pair => exact s.recurse_of_parenthesizes pair
  | below h => exact (s.alike_of_insertionBelow h).node.symm

theorem recurse_of_insertions (s : SourceText) (h : Relation.ReflTransGen Insertion c d) :
    s.recurse d = s.recurse c := by
  induction h with
  | refl => rfl
  | tail _ insertion ih => exact (s.recurse_of_insertion insertion).trans ih

/-- **Parentheses are transparent.** However many pairs of parentheses are put around the root and the
operands of a tree, one inside the other or side by side, with comments in them or without: the tree is
lowered as before. So the classifier says the same of the same nodes, and linting the text ends in the
same way, with any rules and any configuration. -/
theorem lower_of_insertions {root root' : Tree} (h : Relation.ReflTransGen Insertion root root')
    (source : String) :
    (ofString source).lower root' = (ofString source).lower root ∧
      (∀ (v : Vocabulary) (origin : Origin),
        ((ofString source).lower root').map
            (fun n => n.nodes.map fun m => (m, v.classify (.ofRoot n) origin (some m))) =
          ((ofString source).lower root).map
            fun n => n.nodes.map fun m => (m, v.classify (.ofRoot n) origin (some m))) ∧
      ∀ (l : Linter) (path : String),
        l.lintScript path ⟨source, some root'⟩ = l.lintScript path ⟨source, some root⟩ := by
  have hlower : (ofString source).lower root' = (ofString source).lower root := by
    rw [lower_eq_recurse, lower_eq_recurse]
    exact recurse_of_insertions _ h
  refine ⟨hlower, fun v origin => by rw [hlower], fun l path => ?_⟩
  have hprogram : Script.program? ⟨source, some root'⟩ = Script.program? ⟨source, some root⟩ := by
    simp only [Script.program?, hlower]
  rw [Linter.lintScript, Linter.lintScript, hprogram]

/-! ## A call with three pairs of parentheses -/

/-- The argument in `f(x)`. -/
def plainArgument : Tree := .node ⟨4, none, "identifier", 2, 3, 0, 2⟩ []

def argumentList (argument : Tree) : Tree :=
  .node ⟨3, some "arguments", "arguments", 1, 4, 0, 1⟩ [argument]

/-- The call `f(x)`, with a given tree for its argument. -/
def callOf (argument : Tree) : Tree :=
  .node ⟨1, none, "call_expression", 0, 4, 0, 0⟩
    [.node ⟨2, some "function", "identifier", 0, 1, 0, 0⟩ [], argumentList argument]

/-- The program of a call. -/
def programOf (call : Tree) : Tree := .node ⟨0, none, "program", 0, 4, 0, 0⟩ [call]

/-- Parentheses around a tree, with a comment; their place is outside the text. -/
def pairAround (id : Nat) (t : Tree) : Tree :=
  .node ⟨id, t.label.field?, "parenthesized_expression", 90, 80, 9, 99⟩
    [.node ⟨id + 1, none, "comment", 7, 7, 7, 7⟩ [], t]

theorem parenthesizes_pairAround (id : Nat) {t : Tree} (h : t.kind ≠ "comment") :
    (pairAround id t).Parenthesizes t where
  kind := rfl
  field := rfl
  inner := ⟨t.label.field?, [.node ⟨id + 1, none, "comment", 7, 7, 7, 7⟩ []], [], by cases t; rfl, by
    simp [Tree.kind, Tree.label]⟩
  noComment := h

/-- Parentheses are put around the argument, around these parentheses, and around the call. -/
theorem insertions_pairAround :
    Relation.ReflTransGen Insertion (programOf (callOf plainArgument))
      (programOf (pairAround 9 (callOf (pairAround 7 (pairAround 5 plainArgument))))) := by
  have argument : ∀ t : Tree, t.kind ≠ "comment" → ∀ id,
      Insertion (programOf (callOf t)) (programOf (callOf (pairAround id t))) := by
    intro t ht id
    have selected : some t ∈ (argumentList t).operands := by
      have hparts : (argumentList t).parts = [t] := List.filter_cons_of_pos (by simpa using ht)
      show some t ∈ (argumentList t).parts.map some
      rw [hparts]
      exact List.mem_singleton.mpr rfl
    have list : InsertionBelow (argumentList t) (argumentList (pairAround id t)) :=
      .operand [] selected (parenthesizes_pairAround id ht)
    have call : InsertionBelow (callOf t) (callOf (pairAround id t)) :=
      .within [_] list
    exact .below (.within [] call)
  refine .head (argument plainArgument (by decide) 5) ?_
  refine .head (argument (pairAround 5 plainArgument) (by decide) 7) ?_
  refine .single (.below (.operand [] ?_ (parenthesizes_pairAround 9 (by decide))))
  exact List.mem_singleton.mpr rfl

theorem lower_of_insertions_call :
    (ofString "f(x)").lower
        (programOf (pairAround 9 (callOf (pairAround 7 (pairAround 5 plainArgument))))) =
      .ok (.other ⟨0, ⟨0, 4⟩, ⟨1, 0⟩⟩ "Program"
        [.call ⟨1, ⟨0, 4⟩, ⟨1, 0⟩⟩ (some (.identifier ⟨2, ⟨0, 1⟩, ⟨1, 0⟩⟩ "f"))
          [.identifier ⟨4, ⟨2, 3⟩, ⟨1, 2⟩⟩ "x"]]) := by
  rw [(lower_of_insertions insertions_pairAround "f(x)").1, lower_eq_recurse]
  have hcall : (ofString "f(x)").recurse (callOf plainArgument) =
      .ok (.call ⟨1, ⟨0, 4⟩, ⟨1, 0⟩⟩ (some (.identifier ⟨2, ⟨0, 1⟩, ⟨1, 0⟩⟩ "f"))
        [.identifier ⟨4, ⟨2, 3⟩, ⟨1, 2⟩⟩ "x"]) :=
    recurse_of_operands
      (.cons (recurse_of_operands .nil rfl) (.cons (recurse_of_operands .nil rfl) .nil)) rfl
  exact recurse_of_operands (.cons hcall .nil) rfl

end SourceText

end ChainLint.Concrete
