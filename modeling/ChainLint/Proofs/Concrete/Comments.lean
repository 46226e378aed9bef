import ChainLint.Proofs.Concrete.Parentheses

/-!
# Comments and chaining marks do not matter

A comment may stand between any two parts of a construct, and the mark of optional chaining stands among
the parts of a call or an access. Neither is looked at when the tree is lowered: comments are skipped
where the parts of a node are listed, and calls and accesses are read by their fields. So any number of
them may be taken out of a tree, all at once, and lowering it ends in the same way.

`Trims` takes them out of a list of children and of everything below. What a parent can see of such a
list (`AlikeChildren`) stays the same: what it finds in a field, the parts, and the labels of the
fragments of a text. From this the node of the parent follows (`yields_of_alike`), and with it what the
parent's own parent can see.
-/

namespace ChainLint.Concrete

namespace Tree

/-- The kinds of nodes that are read by fields. -/
def linkKinds : List String := ["call_expression", "member_expression", "subscript_expression"]

/-- The fields that they are read by. -/
def linkFields : List String := ["function", "arguments", "object", "property", "index"]

/-- A child that its parent can do without: a comment in no field, unless it is part of a text, or a mark
of optional chaining in none of the fields of a call or an access. -/
inductive Spare (parent : Label) (c : Tree) : Prop
  | comment (kind : c.kind = "comment") (field : c.label.field? = none)
      (outside : parent.kind ≠ "string")
  | chaining (kind : c.kind = "optional_chain") (link : parent.kind ∈ linkKinds)
      (field : ∀ name ∈ linkFields, c.label.field? ≠ some name)

/-- Of the children of a node, on the left, those on the right are left if some spare nodes are taken out,
among them and below them. -/
inductive Trims : Label → List Tree → List Tree → Prop
  | nil {parent : Label} : Trims parent [] []
  | drop {parent : Label} {c : Tree} {cs ds : List Tree} (spare : Spare parent c)
      (rest : Trims parent cs ds) : Trims parent (c :: cs) ds
  | keep {parent label : Label} {below below' cs ds : List Tree} (inner : Trims label below below')
      (rest : Trims parent cs ds) : Trims parent (node label below :: cs) (node label below' :: ds)

variable {parent label : Label} {c : Tree} {cs ds : List Tree} {name : String}

theorem field?_cons_of_ne (h : c.label.field? ≠ some name) :
    (node parent (c :: cs)).field? name = (node parent cs).field? name :=
  List.find?_cons_of_neg (by simpa using h)

theorem field?_cons_of_eq (h : c.label.field? = some name) :
    (node parent (c :: cs)).field? name = some c :=
  List.find?_cons_of_pos (by simpa using h)

theorem Spare.field_ne (spare : Spare parent c) (hname : name ∈ linkFields) :
    c.label.field? ≠ some name := by
  cases spare with
  | comment kind field outside =>
      rw [field]
      exact nofun
  | chaining kind link field => exact field name hname

theorem parts_cons_of_comment (h : c.kind = "comment") :
    (node parent (c :: cs)).parts = (node parent cs).parts :=
  List.filter_cons_of_neg (by simp [h])

theorem parts_cons_of_ne (h : c.kind ≠ "comment") :
    (node parent (c :: cs)).parts = c :: (node parent cs).parts :=
  List.filter_cons_of_pos (by simpa using h)

theorem role_of_linkKind {kind : String} (h : kind ∈ linkKinds) :
    Role.ofKind kind = .call ∨ Role.ofKind kind = .member ∨ Role.ofKind kind = .subscript := by
  simp only [linkKinds, List.mem_cons, List.not_mem_nil, or_false] at h
  rcases h with rfl | rfl | rfl
  · exact .inl rfl
  · exact .inr (.inl rfl)
  · exact .inr (.inr rfl)

end Tree

open Concrete.Tree

namespace SourceText

/-- What a tree gives to its parent: its own node, or those of the arguments that it stands for. -/
def yields (s : SourceText) (t : Tree) : Except LowerError Node × List (Except LowerError Node) :=
  (s.recurse t, (asArguments t).map s.recurse)

/-- A parent finds the same in both lists of children. -/
structure AlikeChildren (s : SourceText) (parent : Label) (cs ds : List Tree) : Prop where
  field : ∀ name ∈ linkFields,
    ((node parent cs).field? name).map s.yields = ((node parent ds).field? name).map s.yields
  parts : parent.kind ∉ linkKinds →
    (node parent cs).parts.map s.recurse = (node parent ds).parts.map s.recurse
  labels : parent.kind = "string" → cs.map Tree.label = ds.map Tree.label

variable {s : SourceText} {parent : Label} {cs ds : List Tree}

theorem stringValue_congr (h : cs.map Tree.label = ds.map Tree.label) :
    s.stringValue cs = s.stringValue ds := by
  have hlabels : ∀ ts : List Tree,
      ts.mapM s.fragmentPoints = (ts.map Tree.label).mapM fun l => s.fragmentPoints (node l []) := by
    intro ts
    rw [List.mapM_map]
    exact congrArg (List.mapM · ts) (funext fun t => s.fragmentPoints_congr rfl)
  rw [stringValue, stringValue, hlabels, hlabels, h]

theorem operands_of_alike (h : AlikeChildren s parent cs ds) :
    (node parent cs).operands.map s.recurseOperand =
      (node parent ds).operands.map s.recurseOperand := by
  have hoperand : ∀ name ∈ linkFields, s.recurseOperand ((node parent cs).field? name) =
      s.recurseOperand ((node parent ds).field? name) := by
    intro name hname
    have hnode : ∀ o : Option Tree,
        s.recurseOperand o = ((o.map s.yields).map Prod.fst).getD (.error .partMissing) := by
      rintro (_ | t) <;> rfl
    rw [hnode, hnode, h.field name hname]
  have harguments : (node parent cs).callArguments.map s.recurse =
      (node parent ds).callArguments.map s.recurse := by
    have hlist : ∀ o : Option Tree, ((o.map asArguments).getD []).map s.recurse =
        ((o.map s.yields).map Prod.snd).getD [] := by
      rintro (_ | t) <;> rfl
    rw [callArguments_eq, callArguments_eq, hlist, hlist, h.field "arguments" (by decide)]
  have hsome : ∀ ts : List Tree, (ts.map some).map s.recurseOperand = ts.map s.recurse := by
    intro ts
    rw [List.map_map]
    rfl
  have hrole : ∀ cs, (node parent cs).role = Role.ofKind parent.kind := fun _ => rfl
  simp only [operands, hrole]
  cases hkind : Role.ofKind parent.kind with
  | call =>
      simp only [List.map_cons, hsome, harguments, hoperand "function" (by decide)]
  | member =>
      simp only [List.map_cons, List.map_nil, hoperand "object" (by decide),
        hoperand "property" (by decide)]
  | subscript =>
      simp only [List.map_cons, List.map_nil, hoperand "object" (by decide),
        hoperand "index" (by decide)]
  | parentheses | construct =>
      have hno : parent.kind ∉ linkKinds := by
        intro hlink
        have hroles := role_of_linkKind hlink
        rw [hkind] at hroles
        rcases hroles with h | h | h <;> cases h
      rw [hsome, hsome, h.parts hno]
  | name | text | number | truth | null | regex => rfl

theorem yields_of_alike (h : AlikeChildren s parent cs ds) :
    s.yields (node parent cs) = s.yields (node parent ds) := by
  have hnode : s.recurse (node parent cs) = s.recurse (node parent ds) :=
    recurse_congr (operands_of_alike h) fun htext =>
      stringValue_congr (h.labels (kind_of_role_text htext))
  have harguments : (asArguments (node parent cs)).map s.recurse =
      (asArguments (node parent ds)).map s.recurse := by
    have hkind : ∀ cs, (node parent cs).kind = parent.kind := fun _ => rfl
    simp only [asArguments, hkind]
    split
    · rename_i hlist
      refine h.parts ?_
      rw [hlist]
      decide
    · rw [List.map_singleton, List.map_singleton, hnode]
  rw [yields, yields, hnode, harguments]

namespace AlikeChildren

/-- A spare child is found in no field, and is no part where parts are listed. -/
theorem drop {c : Tree} (spare : Spare parent c) (h : AlikeChildren s parent cs ds) :
    AlikeChildren s parent (c :: cs) ds := by
  refine ⟨fun name hname => ?_, fun hno => ?_, fun hstring => ?_⟩
  · rw [field?_cons_of_ne (spare.field_ne hname)]
    exact h.field name hname
  · cases spare with
    | comment kind field outside =>
        rw [parts_cons_of_comment kind]
        exact h.parts hno
    | chaining kind link field => exact absurd link hno
  · cases spare with
    | comment kind field outside => exact absurd hstring outside
    | chaining kind link field =>
        rw [hstring] at link
        exact absurd link (by decide)

theorem keep {c d : Tree} (hlabel : c.label = d.label) (hyields : s.yields c = s.yields d)
    (h : AlikeChildren s parent cs ds) : AlikeChildren s parent (c :: cs) (d :: ds) := by
  refine ⟨fun name hname => ?_, fun hno => ?_, fun hstring => ?_⟩
  · by_cases hc : c.label.field? = some name
    · have hd : d.label.field? = some name := hlabel ▸ hc
      rw [field?_cons_of_eq hc, field?_cons_of_eq hd, Option.map_some, Option.map_some, hyields]
    · have hd : d.label.field? ≠ some name := hlabel ▸ hc
      rw [field?_cons_of_ne hc, field?_cons_of_ne hd]
      exact h.field name hname
  · have hkind : c.kind = d.kind := congrArg Label.kind hlabel
    by_cases hc : c.kind = "comment"
    · rw [parts_cons_of_comment hc, parts_cons_of_comment (hkind ▸ hc)]
      exact h.parts hno
    · have hnode : s.recurse c = s.recurse d := congrArg Prod.fst hyields
      rw [parts_cons_of_ne hc, parts_cons_of_ne (hkind ▸ hc), List.map_cons, List.map_cons,
        h.parts hno, hnode]
  · rw [List.map_cons, List.map_cons, hlabel, h.labels hstring]

end AlikeChildren

theorem alikeChildren_of_trims (s : SourceText) (h : Trims parent cs ds) :
    AlikeChildren s parent cs ds := by
  induction h with
  | nil => exact ⟨fun _ _ => rfl, fun _ => rfl, fun _ => rfl⟩
  | drop spare rest ih => exact ih.drop spare
  | keep inner rest ihInner ihRest => exact ihRest.keep rfl (yields_of_alike ihInner)

/-- **Comments and chaining marks do not matter.** Whichever spare nodes are taken out below the root of a
tree, the tree is lowered as before, to the same nodes at the same places or with the same failure; and
linting the text ends in the same way, with any rules and any configuration. -/
theorem lower_of_trims {label : Label} {cs ds : List Tree} (h : Trims label cs ds) (source : String) :
    (ofString source).lower (node label ds) = (ofString source).lower (node label cs) ∧
      ∀ (l : Linter) (path : String),
        l.lintScript path ⟨source, some (node label ds)⟩ =
          l.lintScript path ⟨source, some (node label cs)⟩ := by
  have hlower : (ofString source).lower (node label ds) = (ofString source).lower (node label cs) := by
    have hyields := yields_of_alike (alikeChildren_of_trims (ofString source) h)
    rw [lower_eq_recurse, lower_eq_recurse]
    exact (congrArg Prod.fst hyields).symm
  refine ⟨hlower, fun l path => ?_⟩
  have hprogram : Script.program? ⟨source, some (node label ds)⟩ =
      Script.program? ⟨source, some (node label cs)⟩ := by
    simp only [Script.program?, hlower]
  rw [Linter.lintScript, Linter.lintScript, hprogram]

/-! ## A call with a comment and a chaining mark -/

/-- The access `a?.f`, with or without its mark. -/
def chainedAccess (marks : List Tree) : Tree :=
  .node ⟨2, some "function", "member_expression", 0, 4, 0, 0⟩
    (.node ⟨3, some "object", "identifier", 0, 1, 0, 0⟩ [] :: marks ++
      [.node ⟨5, some "property", "property_identifier", 3, 4, 0, 3⟩ []])

/-- The call `a?.f(/**/x)`, with or without the mark and the comment. -/
def chainedCall (marks comments : List Tree) : Tree :=
  .node ⟨1, none, "call_expression", 0, 11, 0, 0⟩
    [chainedAccess marks,
      .node ⟨6, some "arguments", "arguments", 4, 11, 0, 4⟩
        (comments ++ [.node ⟨8, none, "identifier", 9, 10, 0, 9⟩ []])]

def chainingMark : Tree := .node ⟨4, some "optional_chain", "optional_chain", 1, 3, 0, 1⟩ []

def emptyComment : Tree := .node ⟨7, none, "comment", 5, 9, 0, 5⟩ []

theorem trims_chainedCall :
    Trims ⟨0, none, "program", 0, 11, 0, 0⟩ [chainedCall [chainingMark] [emptyComment]]
      [chainedCall [] []] := by
  have mark : Spare (chainedAccess []).label chainingMark :=
    .chaining rfl (by decide) (by decide)
  have comment : Spare ⟨6, some "arguments", "arguments", 4, 11, 0, 4⟩ emptyComment :=
    .comment rfl rfl (by decide)
  have access : Trims (chainedAccess []).label (chainedAccess [chainingMark]).children
      (chainedAccess []).children :=
    .keep .nil (.drop mark (.keep .nil .nil))
  exact .keep (.keep access (.keep (.drop comment (.keep .nil .nil)) .nil)) .nil

theorem lower_of_trims_chainedCall :
    Trims ⟨0, none, "program", 0, 11, 0, 0⟩ [chainedCall [chainingMark] [emptyComment]]
        [chainedCall [] []] ∧
      (ofString "a?.f(/**/x)").lower
          (.node ⟨0, none, "program", 0, 11, 0, 0⟩ [chainedCall [chainingMark] [emptyComment]]) =
        .ok (.other ⟨0, ⟨0, 11⟩, ⟨1, 0⟩⟩ "Program"
          [.call ⟨1, ⟨0, 11⟩, ⟨1, 0⟩⟩
            (some (.member ⟨2, ⟨0, 4⟩, ⟨1, 0⟩⟩ (.identifier ⟨3, ⟨0, 1⟩, ⟨1, 0⟩⟩ "a")
              (.identifier ⟨5, ⟨3, 4⟩, ⟨1, 3⟩⟩ "f") false))
            [.identifier ⟨8, ⟨9, 10⟩, ⟨1, 9⟩⟩ "x"]]) := by
  refine ⟨trims_chainedCall, ?_⟩
  rw [← (lower_of_trims trims_chainedCall "a?.f(/**/x)").1, lower_eq_recurse]
  have access : (ofString "a?.f(/**/x)").recurse (chainedAccess []) =
      .ok (.member ⟨2, ⟨0, 4⟩, ⟨1, 0⟩⟩ (.identifier ⟨3, ⟨0, 1⟩, ⟨1, 0⟩⟩ "a")
        (.identifier ⟨5, ⟨3, 4⟩, ⟨1, 3⟩⟩ "f") false) :=
    recurse_of_operands
      (.cons (recurse_of_operands .nil rfl) (.cons (recurse_of_operands .nil rfl) .nil)) rfl
  have call : (ofString "a?.f(/**/x)").recurse (chainedCall [] []) =
      .ok (.call ⟨1, ⟨0, 11⟩, ⟨1, 0⟩⟩
        (some (.member ⟨2, ⟨0, 4⟩, ⟨1, 0⟩⟩ (.identifier ⟨3, ⟨0, 1⟩, ⟨1, 0⟩⟩ "a")
          (.identifier ⟨5, ⟨3, 4⟩, ⟨1, 3⟩⟩ "f") false))
        [.identifier ⟨8, ⟨9, 10⟩, ⟨1, 9⟩⟩ "x"]) :=
    recurse_of_operands (.cons access (.cons (recurse_of_operands .nil rfl) .nil)) rfl
  exact recurse_of_operands (.cons call .nil) rfl

end SourceText

end ChainLint.Concrete
