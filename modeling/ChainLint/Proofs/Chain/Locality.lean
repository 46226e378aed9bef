import ChainLint.Proofs.Chain.Grammar

/-!
# Classification sees only the chain

The classifier is given a node and the table of parents of a whole tree. It reads little of this: the
layers of the chain that starts at the node, the argument of a call that has just one, and whether the
node itself is called. `SameChain` relates two nodes, of different trees, whose chains agree in these
things; below a call that ends the chain, and below arguments and properties, they may differ in any way.
The classifier cannot tell such nodes apart (`classify_eq_of_sameChain`).

The relation has the flag of `Vocabulary.chain`: a callee is called, an object is not. That this is what
the tables of the two trees say of the layers below the first is all that has to be known of them.
-/

namespace ChainLint

namespace Node

/-- The value of a literal. -/
def value? : Node → Option LiteralValue
  | .literal _ value => some value
  | _ => none

end Node

/-- Properties of the same name or the same value, or with neither. -/
structure SameProperty (p p' : Node) : Prop where
  name : p.name? = p'.name?
  value : p.value? = p'.value?

/-- As many arguments. If there is one only, it is of the same kind, and a text or a number on both sides
or on neither. -/
structure SameArguments (as as' : List Node) : Prop where
  length : as.length = as'.length
  single : ∀ a a', as = [a] → as' = [a'] →
    a.kind = a'.kind ∧ a.isText = a'.isText ∧ a.isNumber = a'.isNumber

/-- The chains from two nodes have the same layers. The flag says that the nodes are called. An access
that is not called is the last layer of its chain, and so is a call of a method that cannot be determined
or leaves the collection. -/
inductive SameChain (v : Vocabulary) : Bool → Node → Node → Prop
  | identifier {called : Bool} {s s' : Site} {name : String} :
      SameChain v called (.identifier s name) (.identifier s' name)
  | literal {called : Bool} {s s' : Site} {value value' : LiteralValue} :
      SameChain v called (.literal s value) (.literal s' value')
  | other {called : Bool} {s s' : Site} {kind : String} {nodes nodes' : List Node} :
      SameChain v called (.other s kind nodes) (.other s' kind nodes')
  | access {s s' : Site} {object object' property property' : Node} {computed : Bool}
      (same : SameProperty property property') :
      SameChain v false (.member s object property computed) (.member s' object' property' computed)
  | method {s s' : Site} {object object' property property' : Node} {computed : Bool}
      (same : SameProperty property property') (inner : SameChain v false object object') :
      SameChain v true (.member s object property computed) (.member s' object' property' computed)
  | call {called : Bool} {s s' : Site} {callee callee' : Node} {arguments arguments' : List Node}
      (same : SameArguments arguments arguments') (inner : SameChain v true callee callee') :
      SameChain v called (.call s (some callee) arguments) (.call s' (some callee') arguments')
  | last {called : Bool} {s s' t t' : Site} {object object' property property' : Node}
      {computed : Bool} {arguments arguments' : List Node} (same : SameArguments arguments arguments')
      (same' : SameProperty property property')
      (leaves : ∀ method, NamesMethod (.member t object property computed) method →
        v.Leaves method arguments) :
      SameChain v called (.call s (some (.member t object property computed)) arguments)
        (.call s' (some (.member t' object' property' computed)) arguments')
  | broken {called : Bool} {s s' : Site} {arguments arguments' : List Node} :
      SameChain v called (.call s none arguments) (.call s' none arguments')

/-! ## Layers are told apart by what is compared -/

section

variable {s s' : Site} {object object' property property' : Node} {computed : Bool}
  {arguments arguments' : List Node}

theorem propertyName?_congr (same : SameProperty property property') :
    (Node.member s object property computed).propertyName? =
      (Node.member s' object' property' computed).propertyName? := by
  cases computed with
  | true => rfl
  | false => exact same.name

namespace Vocabulary

theorem methodName?_eq (s : Site) (object property : Node) (computed : Bool) :
    methodName? (.member s object property computed) =
      if computed then property.value?.bind LiteralValue.string? else property.name? := by
  cases computed <;> cases property <;> rfl

theorem methodName?_congr (same : SameProperty property property') :
    methodName? (.member s object property computed) =
      methodName? (.member s' object' property' computed) := by
  rw [methodName?_eq, methodName?_eq, same.name, same.value]

/-- A test of single arguments has the same outcome if it depends on what is compared only. -/
theorem atMostOne_congr (same : SameArguments arguments arguments') {test : Node → Bool}
    (htest : ∀ a a', a.kind = a'.kind → a.isText = a'.isText → a.isNumber = a'.isNumber →
      test a = test a') : atMostOne test arguments = atMostOne test arguments' := by
  have hlength := same.length
  match arguments, arguments' with
  | [], [] => rfl
  | [a], [a'] =>
      obtain ⟨hkind, htext, hnumber⟩ := same.single a a' rfl rfl
      exact htest a a' hkind htext hnumber
  | _ :: _ :: _, _ :: _ :: _ => rfl
  | [], _ :: _ | _ :: _, [] | [_], _ :: _ :: _ | _ :: _ :: _, [_] => simp at hlength

theorem leavesCollection_congr (v : Vocabulary) (method : String)
    (same : SameArguments arguments arguments') :
    v.leavesCollection method arguments = v.leavesCollection method arguments' := by
  have hempty : arguments.isEmpty = arguments'.isEmpty := by
    rw [Bool.eq_iff_iff, List.isEmpty_iff_length_eq_zero, List.isEmpty_iff_length_eq_zero,
      same.length]
  have hobject : atMostOne (!isObjectLiteral ·) arguments =
      atMostOne (!isObjectLiteral ·) arguments' := by
    refine atMostOne_congr same fun a a' hkind _ _ => ?_
    simp only [isObjectLiteral, hkind]
  have hflag : atMostOne (fun a => !a.isNumber && !isFunction a) arguments =
      atMostOne (fun a => !a.isNumber && !isFunction a) arguments' := by
    refine atMostOne_congr same fun a a' hkind _ hnumber => ?_
    simp only [isFunction, hkind, hnumber]
  have hname : atMostOne Node.isText arguments = atMostOne Node.isText arguments' :=
    atMostOne_congr same fun a a' _ htext _ => htext
  simp only [leavesCollection, hempty, hobject, hflag, hname]

theorem returnsOther_congr (v : Vocabulary) (same : SameArguments arguments arguments')
    (same' : SameProperty property property') (hobject : v.isConstructor object = v.isConstructor object') :
    v.returnsOther (some (.member s object property computed)) arguments =
      v.returnsOther (some (.member s' object' property' computed)) arguments' := by
  have hmethod : methodName? (.member s object property computed) =
      methodName? (.member s' object' property' computed) := methodName?_congr same'
  simp only [returnsOther, hmethod, hobject, v.leavesCollection_congr _ same]

theorem namesMethod_congr (same : SameProperty property property') {method : String} :
    NamesMethod (.member s object property computed) method ↔
      NamesMethod (.member s' object' property' computed) method := by
  rw [← methodName?_eq_some_iff, ← methodName?_eq_some_iff, methodName?_congr same]

theorem leaves_congr (v : Vocabulary) (method : String) (same : SameArguments arguments arguments') :
    v.Leaves method arguments ↔ v.Leaves method arguments' := by
  rw [← leavesCollection_iff, ← leavesCollection_iff, v.leavesCollection_congr method same]

/-- A call ends the chain if its method cannot be determined or leaves the collection. -/
theorem returnsOther_of_leaves {v : Vocabulary}
    (leaves : ∀ method, NamesMethod (.member s object property computed) method →
      v.Leaves method arguments) :
    v.returnsOther (some (.member s object property computed)) arguments = true := by
  rw [returnsOther_iff]
  by_cases hnamed : ∃ method, NamesMethod (.member s object property computed) method
  · obtain ⟨method, hmethod⟩ := hnamed
    exact .leaves hmethod (leaves method hmethod)
  · exact .undetermined fun method hmethod => hnamed ⟨method, hmethod⟩

/-! ## Chains -/

theorem isConstructor_congr (v : Vocabulary) {called : Bool} {n n' : Node}
    (same : SameChain v called n n') : v.isConstructor n = v.isConstructor n' := by
  cases same <;> rfl

end Vocabulary

end

section

variable {root root' : Node} {v : Vocabulary}

namespace Vocabulary

/-- Peeling the two chains takes the same turn at every layer. In each tree the flag of a layer is what
the table holds for it; the layers below have theirs from `Parents.isCallee_callee` and
`Parents.isCallee_object`. -/
theorem peel_eq_of_sameChain (distinct : root.Distinct) (distinct' : root'.Distinct) {n n' : Node}
    (hn : n ∈ root.nodes) (hn' : n' ∈ root'.nodes) {called : Bool} (same : SameChain v called n n')
    (hcalled : (Parents.ofRoot root).isCallee n = called)
    (hcalled' : (Parents.ofRoot root').isCallee n' = called) :
    v.peel (.ofRoot root) n = v.peel (.ofRoot root') n' := by
  induction same with
  | identifier => rw [peel, peel, hcalled, hcalled']
  | literal => rw [peel, peel]
  | other => rw [peel, peel]
  | access same =>
      rw [peel_member, peel_member, hcalled, hcalled', propertyName?_congr same]
      rfl
  | @method s s' object object' property property' computed same inner ih =>
      have hobject : object ∈ root.nodes := Node.child_mem_nodes hn (List.mem_cons_self ..)
      have hobject' : object' ∈ root'.nodes := Node.child_mem_nodes hn' (List.mem_cons_self ..)
      rw [peel_member, peel_member, if_pos hcalled, if_pos hcalled']
      exact ih hobject hobject' (Parents.isCallee_object distinct hn)
        (Parents.isCallee_object distinct' hn')
  | @call called s s' callee callee' arguments arguments' same inner ih =>
      have hcallee : callee ∈ root.nodes := Node.child_mem_nodes hn (List.mem_cons_self ..)
      have hcallee' : callee' ∈ root'.nodes := Node.child_mem_nodes hn' (List.mem_cons_self ..)
      have hbelow := ih hcallee hcallee' (Parents.isCallee_callee distinct hn)
        (Parents.isCallee_callee distinct' hn')
      have hother : v.returnsOther (some callee) arguments =
          v.returnsOther (some callee') arguments' := by
        cases inner with
        | method same' inner => exact v.returnsOther_congr same same' (v.isConstructor_congr inner)
        | last | call | broken | identifier | literal | other => rfl
      rw [peel, peel, hother, peelOption, peelOption, hbelow]
  | last same same' leaves =>
      -- What ends the one chain ends the other.
      rw [peel, peel, if_pos (returnsOther_of_leaves leaves), if_pos]
      refine returnsOther_of_leaves fun method hmethod => ?_
      exact (v.leaves_congr method same).mp (leaves method ((namesMethod_congr same').mpr hmethod))
  | broken => rw [peel, peel, peelOption, peelOption]; rfl

/-- **Classification sees only the chain.** Two nodes whose chains have the same layers, both of them
called or neither, are classified alike in every respect, whatever else their arguments hold and whatever
trees they stand in. If a callee is missing, the classifier fails for both. -/
theorem classify_eq_of_sameChain (v : Vocabulary) {root root' : Node} (distinct : root.Distinct)
    (distinct' : root'.Distinct) {n n' : Node} (hn : n ∈ root.nodes) (hn' : n' ∈ root'.nodes)
    {called : Bool} (hcalled : called = true ↔ root.Called n)
    (hcalled' : called = true ↔ root'.Called n') (same : SameChain v called n n') (origin : Origin) :
    v.classify (.ofRoot root) origin (some n) = v.classify (.ofRoot root') origin (some n') := by
  have hflag : (Parents.ofRoot root).isCallee n = called :=
    Bool.eq_iff_iff.mpr ((Parents.isCallee_ofRoot_iff distinct hn).trans hcalled.symm)
  have hflag' : (Parents.ofRoot root').isCallee n' = called :=
    Bool.eq_iff_iff.mpr ((Parents.isCallee_ofRoot_iff distinct' hn').trans hcalled'.symm)
  have hpeel := peel_eq_of_sameChain distinct distinct' hn hn' same hflag hflag'
  have hconstructor := v.isConstructor_congr same
  cases origin with
  | collection => exact hpeel
  | utility => simp only [classify, Option.any_some, hconstructor]
  | either => simp only [classify, Option.any_some, hconstructor, peelOption, hpeel]

/-- The call `$x.data({…})` with some entries in the object literal. -/
def storing (entries : List Node) : Node :=
  .call (.ofId 1)
    (some (.member (.ofId 2) (.identifier (.ofId 3) "$x") (.identifier (.ofId 4) "data") false))
    [.other (.ofId 5) "ObjectExpression" entries]

/-- The call `f($x.data({key}))`. -/
def handedOn : Node :=
  .call (.ofId 7) (some (.identifier (.ofId 8) "f")) [storing [.identifier (.ofId 6) "key"]]

/-- Both calls are collections, for an object literal is stored and not looked up. -/
theorem classify_storing :
    (storing []).Distinct ∧ handedOn.Distinct ∧
      ¬ (storing []).Called (storing []) ∧
      ¬ handedOn.Called (storing [.identifier (.ofId 6) "key"]) ∧
      SameChain Settings.standard.vocabulary false (storing [])
        (storing [.identifier (.ofId 6) "key"]) ∧
      Settings.standard.vocabulary.classify (.ofRoot (storing [])) .collection (some (storing [])) =
        Settings.standard.vocabulary.classify (.ofRoot handedOn) .collection
          (some (storing [.identifier (.ofId 6) "key"])) ∧
      Settings.standard.vocabulary.classify (.ofRoot (storing [])) .collection (some (storing [])) =
        .ok true := by
  have distinct : (storing []).Distinct := by
    simp [Node.Distinct, storing, Node.nodes_eq, Node.children, Node.id, Node.site, Site.ofId]
  have distinct' : handedOn.Distinct := by
    simp [Node.Distinct, handedOn, storing, Node.nodes_eq, Node.children, Node.id, Node.site,
      Site.ofId]
  have hn' : storing [.identifier (.ofId 6) "key"] ∈ handedOn.nodes :=
    Node.child_mem_nodes (Node.self_mem_nodes _) (by simp [handedOn, Node.children])
  have hcalled : ¬ (storing []).Called (storing []) := by
    simp [Node.Called, storing, Node.nodes_eq, Node.children]
  have hcalled' : ¬ handedOn.Called (storing [.identifier (.ofId 6) "key"]) := by
    simp [Node.Called, handedOn, storing, Node.nodes_eq, Node.children, Site.ofId]
  have same : SameChain Settings.standard.vocabulary false (storing [])
      (storing [.identifier (.ofId 6) "key"]) := by
    refine .call ⟨rfl, ?_⟩ (.method ⟨rfl, rfl⟩ .identifier)
    rintro a a' ⟨⟩ ⟨⟩
    exact ⟨rfl, rfl, rfl⟩
  have complete : (storing []).Complete := by
    intro site arguments
    simp [storing, Node.nodes_eq, Node.children]
  have hflag : (Parents.ofRoot (storing [])).isCallee (storing []) = false :=
    Bool.eq_false_iff.mpr fun h =>
      hcalled ((Parents.isCallee_ofRoot_iff distinct (Node.self_mem_nodes _)).mp h)
  have hchain : Settings.standard.vocabulary.chain (storing []) false = true := by decide +kernel
  refine ⟨distinct, distinct', hcalled, hcalled', same,
    classify_eq_of_sameChain _ distinct distinct' (Node.self_mem_nodes _) hn' (by simp [hcalled])
      (by simp [hcalled']) same _, ?_⟩
  rw [classify, peelOption, peel_ofRoot _ distinct complete (Node.self_mem_nodes _), hflag, hchain]

end Vocabulary

end

end ChainLint
