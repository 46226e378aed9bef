import ChainLint.Proofs.Chain.Locality
import ChainLint.Proofs.Tree.PostOrder

/-!
# How a method is written

A method can be written behind a dot or as a text in brackets. `Node.rekey` puts any number of methods of a
tree into brackets: a set of identities says which of the accesses that are called are meant. Such a change
goes through a chain at many layers and into arguments at once, and the classifier does not notice it
(`classify_rekey`). Both ways name one method, so that the question whether a call returns something else
has the same answer (`returnsOther_rekey`), and what is asked of arguments and of properties that are not
called is left as it is. The names of methods themselves are the one exception: behind a dot they are
identifiers, in brackets they are texts.

`rekey` is told whether a node is called, as `Vocabulary.chain` is. A node below another is called in the
new tree if and only if it is in the old one (`exists_rekey_mem_nodes`).
-/

namespace ChainLint

open Text

namespace Node

/-! ## Writing methods as keys -/

mutual

/-- The tree with the chosen methods in brackets; `called` says whether the node stands as the callee of a
call. -/
def rekey (chosen : Nat → Bool) : Node → Bool → Node
  | .identifier s name, _ => .identifier s name
  | .literal s value, _ => .literal s value
  | .member s object (.identifier t name) false, true =>
    if chosen s.id then
      .member s (rekey chosen object false) (.literal t (.text (CodePoint.ofString name))) true
    else .member s (rekey chosen object false) (.identifier t name) false
  | .member s object property computed, _ =>
    .member s (rekey chosen object false) (rekey chosen property false) computed
  | .call s callee arguments, _ =>
    .call s (rekeyCallee chosen callee) (rekeyList chosen arguments)
  | .other s kind nodes, _ => .other s kind (rekeyList chosen nodes)

def rekeyCallee (chosen : Nat → Bool) : Option Node → Option Node
  | none => none
  | some callee => some (rekey chosen callee true)

def rekeyList (chosen : Nat → Bool) : List Node → List Node
  | [] => []
  | n :: rest => rekey chosen n false :: rekeyList chosen rest

end

/-- A name that `rekey` turns into a text: the property of a chosen access that is called. -/
def Rekeyed (root : Node) (chosen : Nat → Bool) (n : Node) : Prop :=
  ∃ site arguments place object t name, n = .identifier t name ∧ chosen place.id = true ∧
    .call site (some (.member place object n false)) arguments ∈ root.nodes

section

variable {chosen : Nat → Bool} {called : Bool}

theorem rekeyList_eq (ns : List Node) : rekeyList chosen ns = ns.map (rekey chosen · false) := by
  induction ns with
  | nil => rfl
  | cons n ns ih => rw [rekeyList, ih, List.map_cons]

/-- An access is put into brackets, or its parts are gone through. -/
theorem rekey_member (chosen : Nat → Bool) (called : Bool) (s : Site) (object property : Node)
    (computed : Bool) :
    (∃ t name, property = .identifier t name ∧ computed = false ∧ called = true ∧
      chosen s.id = true ∧ rekey chosen (.member s object property computed) called =
        .member s (rekey chosen object false) (.literal t (.text (CodePoint.ofString name))) true) ∨
    rekey chosen (.member s object property computed) called =
      .member s (rekey chosen object false) (rekey chosen property false) computed := by
  cases called with
  | false => exact .inr (by cases property <;> cases computed <;> rfl)
  | true =>
      cases property with
      | identifier t name =>
          cases computed with
          | true => exact .inr rfl
          | false =>
              cases hchosen : chosen s.id with
              | true => exact .inl ⟨t, name, rfl, rfl, rfl, rfl, by rw [rekey, if_pos hchosen]⟩
              | false => exact .inr (by simp [rekey, hchosen])
      | literal | member | call | other => exact .inr (by cases computed <;> rfl)

theorem rekey_member_uncalled (s : Site) (object property : Node) (computed : Bool) :
    rekey chosen (.member s object property computed) false =
      .member s (rekey chosen object false) (rekey chosen property false) computed := by
  rcases rekey_member chosen false s object property computed with
    ⟨_, _, _, _, h, _⟩ | h
  · cases h
  · exact h

theorem site_rekey (n : Node) : (n.rekey chosen called).site = n.site := by
  cases n with
  | member s object property computed =>
      rcases rekey_member chosen called s object property computed with
        ⟨_, _, _, _, _, _, h⟩ | h <;> rw [h] <;> rfl
  | identifier | literal | call | other => rfl

theorem id_rekey (n : Node) : (n.rekey chosen called).id = n.id := congrArg Site.id (site_rekey n)

theorem value?_rekey (n : Node) : (n.rekey chosen false).value? = n.value? := by
  cases n with
  | member s object property computed => rw [rekey_member_uncalled]; rfl
  | identifier | literal | call | other => rfl

theorem name?_rekey (n : Node) (called : Bool) : (n.rekey chosen called).name? = n.name? := by
  cases n with
  | member s object property computed =>
      rcases rekey_member chosen called s object property computed with
        ⟨_, _, _, _, _, _, h⟩ | h <;> rw [h] <;> rfl
  | identifier | literal | call | other => rfl

/-! ## The new tree -/

theorem map_id_flatMap_nodes {ns : List Node}
    (h : ∀ n ∈ ns, (n.rekey chosen false).nodes.map id = n.nodes.map id) :
    ((ns.map (rekey chosen · false)).flatMap nodes).map id = (ns.flatMap nodes).map id := by
  rw [List.flatMap_map, List.map_flatMap, List.map_flatMap]
  exact List.flatMap_congr h

/-- The new tree has the identities of the old one. -/
theorem map_id_nodes_rekey (n : Node) (called : Bool) :
    (n.rekey chosen called).nodes.map id = n.nodes.map id := by
  induction n using Node.induct generalizing called with
  | step n ih =>
      have hchildren : ((n.rekey chosen called).children.flatMap nodes).map id =
          (n.children.flatMap nodes).map id := by
        cases n with
        | identifier | literal => rfl
        | other s kind nodes =>
            rw [rekey, rekeyList_eq]
            exact map_id_flatMap_nodes fun m hm => ih m hm false
        | member s object property computed =>
            have hobject := ih object (List.mem_cons_self ..) false
            rcases rekey_member chosen called s object property computed with
              ⟨t, name, rfl, -, -, -, h⟩ | h
            · have hkey : (literal t (.text (CodePoint.ofString name))).nodes.map id =
                  (identifier t name).nodes.map id := by rw [nodes_eq, nodes_eq]; rfl
              rw [h]
              simp [children, hobject, hkey]
            · have hproperty := ih property (by simp [children]) false
              rw [h]
              simp [children, hobject, hproperty]
        | call s callee arguments =>
            have harguments : ((arguments.map (Node.rekey chosen · false)).flatMap nodes).map id =
                (arguments.flatMap nodes).map id :=
              map_id_flatMap_nodes fun m hm => ih m (by simp [children, hm]) false
            rw [rekey, rekeyList_eq]
            cases callee with
            | none => exact harguments
            | some callee =>
                have hcallee := ih callee (by simp [children]) true
                simp [rekeyCallee, children, hcallee, harguments]
      rw [nodes_eq, nodes_eq n, List.map_cons, List.map_cons, id_rekey, hchildren]

theorem Distinct.rekey {root : Node} (distinct : root.Distinct) (chosen : Nat → Bool)
    (called : Bool) : (root.rekey chosen called).Distinct := by
  rw [Distinct, map_id_nodes_rekey]
  exact distinct

end

/-! ## Where a node is in the new tree -/

section

variable {root : Node} {chosen : Nat → Bool}

/-- A child of a node stands below the node in the new tree, unless it is a name that is rekeyed. -/
theorem exists_rekey_child {p c : Node} (hp : p ∈ root.nodes) {called : Bool}
    (hcalled : called = true ↔ root.Called p) (hc : c ∈ p.children) (kept : ¬ root.Rekeyed chosen c) :
    ∃ below, c.rekey chosen below ∈ (p.rekey chosen called).children ∧
      (below = true ↔ ∃ site arguments, p = .call site (some c) arguments) := by
  cases p with
  | identifier | literal => cases hc
  | other s kind nodes =>
      refine ⟨false, ?_, by simp⟩
      rw [rekey, rekeyList_eq]
      exact List.mem_map_of_mem hc
  | member s object property computed =>
      refine ⟨false, ?_, by simp⟩
      rcases rekey_member chosen called s object property computed with
        ⟨t, name, rfl, rfl, rfl, hchosen, h⟩ | h
      · rw [h]
        rcases List.mem_pair.mp hc with rfl | rfl
        · exact List.mem_cons_self ..
        · obtain ⟨site, arguments, hcall⟩ := hcalled.mp rfl
          exact absurd ⟨site, arguments, s, object, t, name, rfl, hchosen, hcall⟩ kept
      · rw [h]
        rcases List.mem_pair.mp hc with rfl | rfl <;> simp [children]
  | call s callee arguments =>
      rw [rekey, rekeyList_eq]
      by_cases hcallee : callee = some c
      · subst hcallee
        exact ⟨true, List.mem_cons_self .., by simp⟩
      · refine ⟨false, ?_, by simp [hcallee]⟩
        have harguments : c ∈ arguments := by
          rcases List.mem_append.mp hc with hc | hc
          · exact absurd (Option.mem_toList.mp hc) hcallee
          · exact hc
        exact List.mem_append_right _ (List.mem_map_of_mem harguments)

/-- A child is the callee of its parent in the new tree if and only if it is in the old one. -/
theorem rekey_eq_call_iff (distinct : root.Distinct) {p c : Node} (hp : p ∈ root.nodes)
    (hc : c ∈ p.children) {called below : Bool}
    (hbelow : below = true ↔ ∃ site arguments, p = .call site (some c) arguments) :
    (∃ site arguments, p.rekey chosen called = .call site (some (c.rekey chosen below)) arguments) ↔
      ∃ site arguments, p = .call site (some c) arguments := by
  constructor
  · rintro ⟨site, arguments, h⟩
    cases p with
    | identifier | literal | other => cases h
    | member s object property computed =>
        rcases rekey_member chosen called s object property computed with
          ⟨_, _, _, _, _, _, h'⟩ | h' <;> rw [h'] at h <;> cases h
    | call s callee arguments' =>
        rw [rekey] at h
        cases callee with
        | none => cases h
        | some d =>
            injection h with _ h _
            have hid : d.id = c.id := by rw [← id_rekey d, Option.some.inj h, id_rekey]
            have hd : d ∈ root.nodes := child_mem_nodes hp (List.mem_cons_self ..)
            obtain rfl := distinct.eq_of_id_eq hd (child_mem_nodes hp hc) hid
            exact ⟨s, arguments', rfl⟩
  · intro h
    obtain rfl := hbelow.mpr h
    obtain ⟨site, arguments, rfl⟩ := h
    exact ⟨site, rekeyList chosen arguments, rfl⟩

/-- A node of the tree is in the new tree, called there if and only if it is called in the old one. The
induction goes down from the root, which is not called in either. -/
theorem exists_rekey_mem_nodes (distinct : root.Distinct) {n : Node} (hn : n ∈ root.nodes)
    (kept : ¬ root.Rekeyed chosen n) :
    ∃ called, (called = true ↔ root.Called n) ∧
      n.rekey chosen called ∈ (root.rekey chosen false).nodes ∧
      (called = true ↔ (root.rekey chosen false).Called (n.rekey chosen called)) := by
  have distinct' := distinct.rekey chosen false
  suffices below : ∀ m : Node, n ∈ m.nodes → m ∈ root.nodes → ∀ called,
      (called = true ↔ root.Called m) →
      m.rekey chosen called ∈ (root.rekey chosen false).nodes →
      (called = true ↔ (root.rekey chosen false).Called (m.rekey chosen called)) →
      ∃ called, (called = true ↔ root.Called n) ∧
        n.rekey chosen called ∈ (root.rekey chosen false).nodes ∧
        (called = true ↔ (root.rekey chosen false).Called (n.rekey chosen called)) by
    refine below root hn root.self_mem_nodes false ?_ (self_mem_nodes _) ?_
    · simp [not_called_self]
    · simp [not_called_self]
  intro m hnm hm called hcalled hm' hcalled'
  induction m using Node.induct generalizing called with
  | step m ih =>
      rcases mem_nodes.mp hnm with rfl | ⟨c, hc, hnc⟩
      · exact ⟨called, hcalled, hm', hcalled'⟩
      · have hcroot := child_mem_nodes hm hc
        have keptc : ¬ root.Rekeyed chosen c := by
          rintro ⟨site, arguments, place, object, t, name, rfl, hrest⟩
          -- A name has nothing below it, so that it would be the node itself.
          rcases mem_nodes.mp hnc with rfl | ⟨d, hd, -⟩
          · exact kept ⟨site, arguments, place, object, t, name, rfl, hrest⟩
          · cases hd
        obtain ⟨below, hchild, hbelow⟩ := exists_rekey_child hm hcalled hc keptc
        refine ih c hc hnc hcroot below ?_ (child_mem_nodes hm' hchild) ?_
        · rw [hbelow, called_child_iff distinct hm hc]
        · rw [called_child_iff distinct' hm' hchild, rekey_eq_call_iff distinct hm hc hbelow, hbelow]

end

end Node

/-! ## The classifier -/

section

variable {chosen : Nat → Bool}

theorem sameProperty_rekey (n : Node) : SameProperty n (n.rekey chosen false) :=
  ⟨(Node.name?_rekey n false).symm, (Node.value?_rekey n).symm⟩

/-- Arguments are of the kind they were. -/
theorem sameArguments_rekey (arguments : List Node) :
    SameArguments arguments (Node.rekeyList chosen arguments) := by
  rw [Node.rekeyList_eq]
  refine ⟨(List.length_map _).symm, ?_⟩
  intro a a' ha ha'
  subst ha
  have ha' : [a.rekey chosen false] = [a'] := ha'
  obtain rfl := List.singleton_inj.mp ha'
  cases a with
  | member s object property computed => rw [Node.rekey_member_uncalled]; exact ⟨rfl, rfl, rfl⟩
  | identifier | literal | call | other => exact ⟨rfl, rfl, rfl⟩

namespace Vocabulary

theorem isConstructor_rekey (v : Vocabulary) (chosen : Nat → Bool) (n : Node) (called : Bool) :
    v.isConstructor (n.rekey chosen called) = v.isConstructor n := by
  rw [isConstructor, isConstructor, Node.name?_rekey]

/-- Behind a dot and in brackets a method has one name. -/
theorem methodName?_rekey (chosen : Nat → Bool) (s : Site) (object property : Node)
    (computed : Bool) :
    methodName? ((Node.member s object property computed).rekey chosen true) =
      methodName? (.member s object property computed) := by
  rcases Node.rekey_member chosen true s object property computed with
    ⟨t, name, rfl, rfl, -, -, h⟩ | h
  · rw [h]
    exact CodePoint.toString?_ofString name
  · rw [h]
    exact (methodName?_congr (sameProperty_rekey property)).symm

theorem returnsOther_rekey (v : Vocabulary) (callee : Option Node) (arguments : List Node) :
    v.returnsOther (Node.rekeyCallee chosen callee) (Node.rekeyList chosen arguments) =
      v.returnsOther callee arguments := by
  have hleaves : ∀ method, v.leavesCollection method (Node.rekeyList chosen arguments) =
      v.leavesCollection method arguments :=
    fun method => (v.leavesCollection_congr method (sameArguments_rekey arguments)).symm
  cases callee with
  | none => rfl
  | some callee =>
      rw [Node.rekeyCallee]
      cases callee with
      | identifier | literal | call | other => rfl
      | member s object property computed =>
          have hname := methodName?_rekey chosen s object property computed
          have hobject := v.isConstructor_rekey chosen object false
          rcases Node.rekey_member chosen true s object property computed with
            ⟨_, _, _, _, _, _, h⟩ | h <;>
          · rw [h] at hname ⊢
            simp only [returnsOther, hname, hobject, hleaves]

variable {root : Node}

/-- The two chains are peeled layer by layer. In each tree the flag of a layer is what the table holds for
it. -/
theorem peel_rekey (v : Vocabulary) (distinct : root.Distinct) {n : Node} (hn : n ∈ root.nodes)
    {called : Bool} (hn' : n.rekey chosen called ∈ (root.rekey chosen false).nodes)
    (hcalled : (Parents.ofRoot root).isCallee n = called)
    (hcalled' : (Parents.ofRoot (root.rekey chosen false)).isCallee (n.rekey chosen called) = called) :
    v.peel (.ofRoot (root.rekey chosen false)) (n.rekey chosen called) = v.peel (.ofRoot root) n := by
  have distinct' := distinct.rekey chosen false
  induction n using Node.induct generalizing called with
  | step n ih =>
      cases n with
      | identifier s name =>
          rw [Node.rekey] at hcalled' ⊢
          rw [peel, peel, hcalled, hcalled']
      | literal => rw [Node.rekey, peel, peel]
      | other => rw [Node.rekey, peel, peel]
      | member s object property computed =>
          have hmem : object ∈ (Node.member s object property computed).children :=
            List.mem_cons_self ..
          have hobject := Node.child_mem_nodes hn hmem
          cases called with
          | false =>
              rw [Node.rekey_member_uncalled] at hcalled' ⊢
              rw [peel_member, peel_member, hcalled, hcalled',
                propertyName?_congr (sameProperty_rekey property)]
              rfl
          | true =>
              rcases Node.rekey_member chosen true s object property
                computed with ⟨_, _, _, _, _, _, h⟩ | h <;>
              · rw [h] at hn' hcalled' ⊢
                rw [peel_member, peel_member, if_pos hcalled, if_pos hcalled']
                exact ih object hmem hobject (Node.child_mem_nodes hn' (List.mem_cons_self ..))
                  (Parents.isCallee_object distinct hn) (Parents.isCallee_object distinct' hn')
      | call s callee arguments =>
          rw [Node.rekey] at hn' ⊢
          rw [peel, peel, returnsOther_rekey]
          cases callee with
          | none => rfl
          | some callee =>
              have hmem : callee ∈ (Node.call s (some callee) arguments).children :=
                List.mem_cons_self ..
              rw [Node.rekeyCallee] at hn' ⊢
              rw [peelOption, peelOption, ih callee hmem (Node.child_mem_nodes hn hmem)
                (Node.child_mem_nodes hn' (List.mem_cons_self ..))
                (Parents.isCallee_callee distinct hn) (Parents.isCallee_callee distinct' hn')]

/-- **Behind a dot or in brackets, a method is a method.** Whatever methods of a tree are put into brackets,
the new tree has the identities of the old one, and each node of it is classified as the node it comes
from, in every respect. The names that have been turned into texts are excepted. -/
theorem classify_rekey (v : Vocabulary) {root : Node} (distinct : root.Distinct)
    (chosen : Nat → Bool) :
    (root.rekey chosen false).nodes.map Node.id = root.nodes.map Node.id ∧
      ∀ n ∈ root.nodes, ¬ root.Rekeyed chosen n →
        ∃ n' ∈ (root.rekey chosen false).nodes, n'.id = n.id ∧
          ∀ origin, v.classify (.ofRoot (root.rekey chosen false)) origin (some n') =
            v.classify (.ofRoot root) origin (some n) := by
  refine ⟨Node.map_id_nodes_rekey root false, fun n hn kept => ?_⟩
  obtain ⟨called, hcalled, hn', hcalled'⟩ := Node.exists_rekey_mem_nodes distinct hn kept
  have hflag : (Parents.ofRoot root).isCallee n = called :=
    Bool.eq_iff_iff.mpr ((Parents.isCallee_ofRoot_iff distinct hn).trans hcalled.symm)
  have hflag' : (Parents.ofRoot (root.rekey chosen false)).isCallee (n.rekey chosen called) = called :=
    Bool.eq_iff_iff.mpr
      ((Parents.isCallee_ofRoot_iff (distinct.rekey chosen false) hn').trans hcalled'.symm)
  have hpeel := v.peel_rekey distinct hn hn' hflag hflag'
  have hconstructor := v.isConstructor_rekey chosen n called
  refine ⟨_, hn', Node.id_rekey n, fun origin => ?_⟩
  cases origin with
  | collection => exact hpeel
  | utility => simp only [classify, Option.any_some, hconstructor]
  | either => simp only [classify, Option.any_some, hconstructor, peelOption, hpeel]

/-- The call `$x.find("p").first()`. -/
def dotted : Node :=
  .call (.ofId 0)
    (some (.member (.ofId 1)
      (.call (.ofId 2)
        (some (.member (.ofId 3) (.identifier (.ofId 4) "$x") (.identifier (.ofId 5) "find") false))
        [.literal (.ofId 6) (.text (CodePoint.ofString "p"))])
      (.identifier (.ofId 7) "first") false)) []

/-- The call `$x["find"]("p")["first"]()`. -/
def bracketed : Node :=
  .call (.ofId 0)
    (some (.member (.ofId 1)
      (.call (.ofId 2)
        (some (.member (.ofId 3) (.identifier (.ofId 4) "$x")
          (.literal (.ofId 5) (.text (CodePoint.ofString "find"))) true))
        [.literal (.ofId 6) (.text (CodePoint.ofString "p"))])
      (.literal (.ofId 7) (.text (CodePoint.ofString "first"))) true)) []

theorem classify_bracketed :
    dotted.rekey (fun _ => true) false = bracketed ∧ dotted.Distinct ∧
      ¬ dotted.Rekeyed (fun _ => true) dotted ∧
      ∃ n ∈ bracketed.nodes, n.id = 0 ∧
        Settings.standard.vocabulary.classify (.ofRoot bracketed) .collection (some n) = .ok true := by
  have hnodes : dotted.nodes.map Node.id = [0, 1, 2, 3, 4, 5, 6, 7] := by
    simp [dotted, Node.nodes_eq, Node.children, Node.id, Node.site, Site.ofId]
  have distinct : dotted.Distinct := by
    rw [Node.Distinct, hnodes]
    decide
  have complete : dotted.Complete := by
    intro site arguments
    simp [dotted, Node.nodes_eq, Node.children]
  have kept : ¬ dotted.Rekeyed (fun _ => true) dotted := by
    rintro ⟨_, _, _, _, _, _, h, -⟩
    cases h
  have uncalled : (Parents.ofRoot dotted).isCallee dotted = false :=
    Bool.eq_false_iff.mpr fun h =>
      Node.not_called_self dotted ((Parents.isCallee_ofRoot_iff distinct dotted.self_mem_nodes).mp h)
  obtain ⟨n, hn, hid, hclass⟩ := (classify_rekey Settings.standard.vocabulary distinct
    (fun _ => true)).2 dotted dotted.self_mem_nodes kept
  refine ⟨rfl, distinct, kept, n, hn, hid, (hclass .collection).trans ?_⟩
  rw [classify, peelOption, peel_ofRoot _ distinct complete dotted.self_mem_nodes, uncalled]
  decide +kernel

end Vocabulary

end

end ChainLint
