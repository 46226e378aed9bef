import ChainLint.Chain.Classifier
import ChainLint.Proofs.Tree.Parents

/-!
# The grammar of chains

`Vocabulary.peel` asks the table of parents at every layer whether a node is called. The grammar of
chains needs no table: `Vocabulary.chain` is told of the outermost node whether it is called, and hands
the answer for the next layer down, since a callee is called and an object is not. The two agree on every
node of a tree (`peel_ofRoot`), because the table knows the callees of its tree.

What the grammar says of a call is `Vocabulary.ReturnsOther`, a list of the reasons for which a call
gives something else than a collection.
-/

namespace ChainLint

open Text

/-! ## Reasons -/

/-- The method that a member access names: a plain property, or a text in brackets. -/
inductive NamesMethod : Node → String → Prop
  | property {site place : Site} {object : Node} {name : String} :
      NamesMethod (.member site object (.identifier place name) false) name
  | key {site place : Site} {object : Node} {name : String} :
      NamesMethod (.member site object (.literal place (.text (CodePoint.ofString name))) true) name

namespace Vocabulary

/-- The reasons for which a method of a collection, called with some arguments, does not return a
collection. A single argument makes a value accessor a setter if it is an object literal, a method that
reads a size if it is a number or a function, and the queue if it is anything but a text. -/
inductive Leaves (v : Vocabulary) (method : String) : List Node → Prop
  | never {arguments : List Node}
      (h : method ∈ Methods.neverCollection ∨ v.plugin? method = some .never) :
      Leaves v method arguments
  | accessor (h : method ∈ Methods.accessors ∨ v.plugin? method = some .accessor) :
      Leaves v method []
  | valueAccessor (h : method ∈ Methods.valueAccessors ∨ v.plugin? method = some .valueAccessor) :
      Leaves v method []
  | valueAccessorKey {a : Node}
      (h : method ∈ Methods.valueAccessors ∨ v.plugin? method = some .valueAccessor)
      (ha : a.kind ≠ "ObjectExpression") : Leaves v method [a]
  | sizing (h : method ∈ Methods.sizing) : Leaves v method []
  | sizingFlag {a : Node} (h : method ∈ Methods.sizing) (ha : ¬ a.isNumber)
      (hf : a.kind ∉ ["FunctionExpression", "ArrowFunctionExpression"]) : Leaves v method [a]
  | queue (h : method = Methods.queue) : Leaves v method []
  | queueName {a : Node} (h : method = Methods.queue) (ha : a.isText) : Leaves v method [a]
  | unknown {arguments : List Node} (h : method ∉ Methods.known) (hp : v.plugin? method = none) :
      Leaves v method arguments

/-- The reasons for which a call of a member access does not return a collection: the method cannot be
determined, it is a utility, or it leaves the collection. -/
inductive ReturnsOther (v : Vocabulary) : Option Node → List Node → Prop
  | undetermined {site : Site} {object property : Node} {computed : Bool} {arguments : List Node}
      (h : ∀ name, ¬ NamesMethod (.member site object property computed) name) :
      ReturnsOther v (some (.member site object property computed)) arguments
  | utility {site place : Site} {name : String} {property : Node} {computed : Bool}
      {arguments : List Node} (h : v.isAlias name) :
      ReturnsOther v (some (.member site (.identifier place name) property computed)) arguments
  | leaves {callee : Node} {method : String} {arguments : List Node}
      (hm : NamesMethod callee method) (h : v.Leaves method arguments) :
      ReturnsOther v (some callee) arguments

/-! ## The reasons decide -/

theorem leavesCollection_iff (v : Vocabulary) (method : String) (arguments : List Node) :
    v.leavesCollection method arguments = true ↔ v.Leaves method arguments := by
  simp only [leavesCollection, isObjectLiteral, isFunction, Bool.or_eq_true, Bool.and_eq_true,
    List.contains_iff_mem, beq_iff_eq, List.isEmpty_iff, Bool.not_eq_true']
  constructor
  · rintro ((((((h | h) | ⟨h, rfl⟩) | ⟨h, ha⟩) | ⟨h, ha⟩) | ⟨h, ha⟩) | ⟨h, hp⟩)
    · exact .never (Or.inl h)
    · exact .never (Or.inr h)
    · exact .accessor h
    · match arguments, ha with
      | [], _ => exact .valueAccessor h
      | [a], ha => exact .valueAccessorKey h (by simpa [atMostOne] using ha)
    · match arguments, ha with
      | [], _ => exact .sizing h
      | [a], ha => exact .sizingFlag h (by simp_all [atMostOne]) (by simp_all [atMostOne])
    · match arguments, ha with
      | [], _ => exact .queue h
      | [a], ha => exact .queueName h (by simpa [atMostOne] using ha)
    · exact .unknown (by simpa using h) hp
  · intro h
    cases h with
    | never h => tauto
    | accessor h => tauto
    | valueAccessor h => simp [atMostOne, h]
    | valueAccessorKey h ha => simp [atMostOne, h, ha]
    | sizing h => simp [atMostOne, h]
    | sizingFlag h ha hf => simp_all [atMostOne]
    | queue h => simp [atMostOne, h]
    | queueName h ha => simp [atMostOne, h, ha]
    | unknown h hp => simp [h, hp]

theorem methodName?_eq_some_iff {callee : Node} {name : String} :
    methodName? callee = some name ↔ NamesMethod callee name := by
  constructor
  · intro h
    unfold methodName? at h
    split at h
    · obtain rfl := Option.some.inj h
      exact .property
    · rename_i value
      cases value with
      | text points =>
          obtain rfl := CodePoint.toString?_eq_some_iff.mp h
          exact .key
      | _ => cases h
    · cases h
  · rintro (_ | _)
    · rfl
    · exact CodePoint.toString?_ofString name

theorem isConstructor_iff (v : Vocabulary) (n : Node) :
    v.isConstructor n = true ↔ ∃ place name, n = .identifier place name ∧ v.isAlias name := by
  cases n <;> simp [isConstructor, Node.name?]

theorem isConstructor_eq {v w : Vocabulary} (h : v.isAlias = w.isAlias) :
    v.isConstructor = w.isConstructor := by
  funext n
  simp only [isConstructor, h]

/-- The test of a call says whether there is a reason. -/
theorem returnsOther_iff (v : Vocabulary) (callee : Option Node) (arguments : List Node) :
    v.returnsOther callee arguments = true ↔ v.ReturnsOther callee arguments := by
  unfold returnsOther
  split
  · rename_i site object property computed
    constructor
    · intro h
      split at h
      · rename_i hnone
        refine .undetermined fun name hname => ?_
        rw [methodName?_eq_some_iff.mpr hname] at hnone
        cases hnone
      · rename_i method hmethod
        rcases Bool.or_eq_true_iff.mp h with h | h
        · obtain ⟨place, name, rfl, halias⟩ := (v.isConstructor_iff object).mp h
          exact .utility halias
        · exact .leaves (methodName?_eq_some_iff.mp hmethod) ((leavesCollection_iff ..).mp h)
    · intro h
      cases h with
      | undetermined h =>
          split
          · rfl
          · rename_i method hmethod
            exact absurd (methodName?_eq_some_iff.mp hmethod) (h method)
      | utility h =>
          split
          · rfl
          · simp [isConstructor, Node.name?, h]
      | leaves hm h =>
          rw [methodName?_eq_some_iff.mpr hm]
          simp [(leavesCollection_iff ..).mpr h]
  · rename_i hother
    constructor
    · intro h
      cases h
    · rintro (_ | _ | ⟨hm, -⟩)
      · exact absurd rfl (hother _ _ _ _)
      · exact absurd rfl (hother _ _ _ _)
      · cases hm <;> exact absurd rfl (hother _ _ _ _)

instance (v : Vocabulary) (callee : Option Node) (arguments : List Node) :
    Decidable (v.ReturnsOther callee arguments) :=
  decidable_of_iff _ (v.returnsOther_iff callee arguments)

/-! ## The grammar -/

mutual

/-- Whether a node evaluates to a collection, by its shape alone; `called` says whether the node stands
as the callee of a call. -/
def chain (v : Vocabulary) : Node → Bool → Bool
  | .identifier _ name, true => v.isAlias name
  | .identifier _ name, false => v.isAlias name || v.isVariable name
  | .member _ object _ _, true => chain v object false
  | .member _ _ (.identifier _ name) false, false => v.isVariable name
  | .member .., false => false
  | .call _ callee arguments, _ => !decide (v.ReturnsOther callee arguments) && chainCallee v callee
  | .literal .., _ | .other .., _ => false

/-- The same for the callee of a call; without a callee there is no collection. -/
def chainCallee (v : Vocabulary) : Option Node → Bool
  | none => false
  | some callee => chain v callee true

end

theorem chain_member_uncalled (v : Vocabulary) (site : Site) (object property : Node)
    (computed : Bool) :
    v.chain (.member site object property computed) false =
      ((Node.member site object property computed).propertyName?).any v.isVariable := by
  cases property <;> cases computed <;> simp [chain, Node.propertyName?, Node.name?]

/-! ## Peeling follows the grammar -/

/-- Peeling a member access in one line: a called one leads to its object, any other is decided by its
property. -/
theorem peel_member (v : Vocabulary) (p : Parents) (site : Site) (object property : Node)
    (computed : Bool) :
    v.peel p (.member site object property computed) =
      if p.isCallee (.member site object property computed) then v.peel p object
      else .ok (((Node.member site object property computed).propertyName?).any v.isVariable) := by
  rw [peel]
  cases (Node.member site object property computed).propertyName? <;> rfl

/-- Whatever the table says, a chain of complete calls is classified: peeling fails only where a callee is
missing. -/
theorem peel_answers (v : Vocabulary) (p : Parents) {n : Node} (complete : n.Complete) :
    ∃ found, v.peel p n = .ok found := by
  induction n using Node.induct with
  | step n ih =>
      cases n with
      | identifier site name =>
          unfold peel
          split <;> exact ⟨_, rfl⟩
      | literal site value => exact ⟨false, by rw [peel]⟩
      | other site kind nodes => exact ⟨false, by rw [peel]⟩
      | member site object property computed =>
          have hobject : object ∈ (Node.member site object property computed).children :=
            List.mem_cons_self ..
          rw [peel_member]
          split
          · exact ih object hobject (complete.child hobject)
          · exact ⟨_, rfl⟩
      | call site callee arguments =>
          rw [peel]
          split
          · exact ⟨false, rfl⟩
          · cases callee with
            | none => exact absurd (Node.self_mem_nodes _) (complete site arguments)
            | some callee =>
                have hcallee : callee ∈ (Node.call site (some callee) arguments).children :=
                  List.mem_cons_self ..
                rw [peelOption]
                exact ih callee hcallee (complete.child hcallee)

theorem classify_answers (v : Vocabulary) (p : Parents) (origin : Origin) {n : Node}
    (complete : n.Complete) : ∃ found, v.classify p origin (some n) = .ok found := by
  have hpeel := v.peel_answers p complete
  cases origin with
  | collection => exact hpeel
  | utility => exact ⟨_, rfl⟩
  | either =>
      simp only [classify]
      split
      · exact ⟨true, rfl⟩
      · exact hpeel

section

variable {root : Node} (v : Vocabulary)

/-- **The table of parents is not needed**: peeling a node of a tree succeeds, and says what the grammar
says of the node, given whether it is called. One layer is peeled for each step of the induction; the
flag of the layer below is the one that the table holds for it. -/
theorem peel_ofRoot (distinct : root.Distinct) (complete : root.Complete) {n : Node}
    (hn : n ∈ root.nodes) :
    v.peel (Parents.ofRoot root) n = .ok (v.chain n ((Parents.ofRoot root).isCallee n)) := by
  induction n using Node.induct with
  | step n ih =>
      cases n with
      | identifier site name =>
          unfold peel
          split
          · rename_i hcalled
            rw [hcalled, chain]
          · rename_i hcalled
            rw [Bool.eq_false_iff.mpr hcalled, chain, Bool.or_comm]
      | literal site value => rw [peel, chain]
      | other site kind nodes => rw [peel, chain]
      | member site object property computed =>
          have hobject : object ∈ (Node.member site object property computed).children :=
            List.mem_cons_self ..
          cases hcalled : (Parents.ofRoot root).isCallee (.member site object property computed) with
          | true =>
              rw [peel_member, if_pos hcalled, chain,
                ih object hobject (Node.child_mem_nodes hn hobject),
                Parents.isCallee_object distinct hn]
          | false =>
              rw [peel_member, if_neg (Bool.eq_false_iff.mp hcalled), chain_member_uncalled]
      | call site callee arguments =>
          unfold peel
          cases callee with
          | none => exact absurd hn (complete site arguments)
          | some callee =>
              have hcallee : callee ∈ (Node.call site (some callee) arguments).children :=
                List.mem_cons_self ..
              rw [chain, chainCallee, peelOption,
                ih callee hcallee (Node.child_mem_nodes hn hcallee),
                Parents.isCallee_callee distinct hn]
              by_cases h : v.ReturnsOther (some callee) arguments
              · simp [(v.returnsOther_iff _ _).mpr h, h]
              · have hfalse : v.returnsOther (some callee) arguments = false :=
                  Bool.eq_false_iff.mpr fun e => h ((v.returnsOther_iff _ _).mp e)
                simp [hfalse, h]

/-- **Classification computes the grammar of chains.** For every node of a tree the classifier answers,
and its answer is that of the grammar; the flag is true exactly of the nodes that are called. -/
theorem classify_collection_eq_chain (distinct : root.Distinct) (complete : root.Complete) {n : Node}
    (hn : n ∈ root.nodes) {called : Bool} (hcalled : called = true ↔ root.Called n) :
    v.classify (Parents.ofRoot root) .collection (some n) = .ok (v.chain n called) := by
  have hflag : (Parents.ofRoot root).isCallee n = called :=
    Bool.eq_iff_iff.mpr ((Parents.isCallee_ofRoot_iff distinct hn).trans hcalled.symm)
  rw [classify, peelOption, peel_ofRoot v distinct complete hn, hflag]

end

/-- The call `$x.data({})`, which an object literal makes a setter. -/
def setter : Node :=
  .call (.ofId 2)
    (some (.member (.ofId 3) (.identifier (.ofId 4) "$x") (.identifier (.ofId 5) "data") false))
    [.other (.ofId 6) "ObjectExpression" []]

/-- The call `$x.data({}).on()`. -/
def setterChain : Node :=
  .call (.ofId 0) (some (.member (.ofId 1) setter (.identifier (.ofId 7) "on") false)) []

theorem classify_setter :
    setterChain.Distinct ∧ setterChain.Complete ∧ setter ∈ setterChain.nodes ∧
      ¬ setterChain.Called setter ∧
      Settings.standard.vocabulary.classify (Parents.ofRoot setterChain) .collection (some setter) =
        .ok true := by
  have distinct : setterChain.Distinct := by
    simp [Node.Distinct, setterChain, setter, Node.nodes_eq, Node.children, Node.id, Node.site,
      Site.ofId]
  have complete : setterChain.Complete := by
    intro site arguments
    simp [setterChain, setter, Node.nodes_eq, Node.children]
  have hn : setter ∈ setterChain.nodes := by
    simp [setterChain, setter, Node.nodes_eq, Node.children]
  have hcalled : ¬ setterChain.Called setter := by
    simp [Node.Called, setterChain, setter, Node.nodes_eq, Node.children, Site.ofId]
  have hflag : false = true ↔ setterChain.Called setter := by simp [hcalled]
  refine ⟨distinct, complete, hn, hcalled, ?_⟩
  rw [classify_collection_eq_chain Settings.standard.vocabulary distinct complete hn hflag]
  decide +kernel

end Vocabulary

end ChainLint
