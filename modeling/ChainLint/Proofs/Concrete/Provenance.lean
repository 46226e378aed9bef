import ChainLint.Proofs.Concrete.Recursion
import ChainLint.Proofs.Tree.Traversal

/-!
# Where nodes come from

Every node of a lowered tree was built for one of the trees that were entered, at the site of that
tree and from its operands (`exists_origin_of_mem`), and every tree that was entered has its node in
the result (`entered_mem_nodes`). What kind of node it is tells the role of the tree (`Built`).
Parentheses around one expression are passed over, so that the tree of an operand's node may stand
inside several of them.
-/

namespace ChainLint.Concrete

open ChainLint.Concrete.Tree

namespace SourceText

variable {s : SourceText} {t c root : Tree} {n m : Node} {values : List Node}

/-! ## One node -/

/-- The node was built for the tree, and not taken over from an expression in parentheses. -/
inductive Built (s : SourceText) (t : Tree) : List Node → Node → Prop
  | name (role : t.role = .name) {site : Site} (place : s.site t.label = .ok site)
      (values : List Node) {text : String} (spelled : s.textOf t.label = .ok text.toList) :
      Built s t values (.identifier site text)
  | literal (leaf : t.operands = []) {site : Site} (place : s.site t.label = .ok site)
      (values : List Node) (value : LiteralValue) : Built s t values (.literal site value)
  | member (role : t.role = .member) {site : Site} (place : s.site t.label = .ok site)
      (object property : Node) : Built s t [object, property] (.member site object property false)
  | subscript (role : t.role = .subscript) {site : Site} (place : s.site t.label = .ok site)
      (object index : Node) : Built s t [object, index] (.member site object index true)
  | call (role : t.role = .call) {site : Site} (place : s.site t.label = .ok site) (callee : Node)
      (arguments : List Node) : Built s t (callee :: arguments) (.call site (some callee) arguments)
  | other {site : Site} (place : s.site t.label = .ok site) (kind : String) (values : List Node) :
      Built s t values (.other site kind values)

theorem Built.site_eq (h : s.Built t values n) : s.site t.label = .ok n.site := by
  cases h <;> assumption

theorem Built.children_eq (h : s.Built t values n) :
    t.operands = [] ∧ n.children = [] ∨ n.children = values := by
  cases h with
  | name role => exact .inl ⟨by rw [operands, role], rfl⟩
  | literal leaf => exact .inl ⟨leaf, rfl⟩
  | member | subscript | call | other => exact .inr rfl

theorem built_of_build (h : s.build t values = .ok n) :
    t.role = .parentheses ∧ values = [n] ∨ s.Built t values n := by
  unfold build at h
  split at h
  · exact .inl ⟨‹_›, by rw [Except.ok.inj h]⟩
  · right
    obtain ⟨site, hsite, h⟩ := exists_of_bind_eq_ok h
    -- One case for each line of the definition.
    split at h
    case h_2 | h_5 | h_6 => cases h
    case h_1 hrole _ _ =>
        obtain rfl := Except.ok.inj h
        exact .call hrole hsite ..
    case h_3 hrole _ _ =>
        obtain rfl := Except.ok.inj h
        exact .member hrole hsite ..
    case h_4 hrole _ _ =>
        obtain rfl := Except.ok.inj h
        exact .subscript hrole hsite ..
    case h_7 hrole _ _ =>
        obtain ⟨text, htext, h⟩ := exists_of_bind_eq_ok h
        obtain rfl := Except.ok.inj h
        exact .name hrole hsite _ (by rw [htext, String.toList_ofList])
    case h_8 hrole _ _ | h_9 hrole _ _ | h_12 hrole _ _ =>
        obtain ⟨value, -, h⟩ := exists_of_bind_eq_ok h
        obtain rfl := Except.ok.inj h
        exact .literal (by rw [operands, hrole]) hsite ..
    case h_10 hrole _ _ | h_11 hrole _ _ =>
        obtain rfl := Except.ok.inj h
        exact .literal (by rw [operands, hrole]) hsite ..
    case h_13 | h_14 =>
        obtain rfl := Except.ok.inj h
        exact .other hsite ..

theorem exists_of_recurseOperand {o : Option Tree} (h : s.recurseOperand o = .ok n) :
    ∃ c, o = some c ∧ s.recurse c = .ok n := by
  match o with
  | none => cases h
  | some c => exact ⟨c, rfl, h⟩

/-- A node is that of the one expression in parentheses, or it was built for the tree itself. -/
theorem recurse_cases (h : s.recurse t = .ok n) :
    (∃ c, t.Around c ∧ s.recurse c = .ok n) ∨
      ∃ values, t.operands.mapM s.recurseOperand = .ok values ∧ s.Built t values n := by
  obtain ⟨values, hvalues, hbuild⟩ := recurse_eq_ok h
  rcases built_of_build hbuild with ⟨hrole, rfl⟩ | built
  · left
    obtain ⟨o, os, ho, hos, hoperands⟩ := List.forall₂_cons_right_iff.mp (mapM_eq_ok_iff.mp hvalues)
    obtain rfl := List.forall₂_nil_right_iff.mp hos
    obtain ⟨c, rfl, hc⟩ := exists_of_recurseOperand ho
    exact ⟨c, ⟨hrole, hoperands⟩, hc⟩
  · exact .inr ⟨values, hvalues, built⟩

/-- The site of a node is that of its tree, or that of the expression in parentheses. -/
theorem site_of_recurse (h : s.recurse t = .ok n) :
    s.site t.label = .ok n.site ∨ ∃ c, t.Around c ∧ s.recurse c = .ok n := by
  rcases recurse_cases h with around | ⟨values, -, built⟩
  · exact .inr around
  · exact .inl built.site_eq

/-- The site of a node is that of its tree once all parentheses around it are taken off. -/
theorem exists_unwrapped (h : s.recurse t = .ok n) :
    ∃ u, t.Wraps u ∧ (∀ c, ¬ u.Around c) ∧ s.site u.label = .ok n.site := by
  induction t using induct_operands with
  | step t ih =>
      by_cases around : ∃ c, t.Around c
      · obtain ⟨c, around⟩ := around
        rw [recurse_of_around s around] at h
        obtain ⟨u, wraps, bare, hsite⟩ := ih c (mem_operands_of_around around) h
        exact ⟨u, .head around wraps, bare, hsite⟩
      · have bare : ∀ c, ¬ t.Around c := fun c hc => around ⟨c, hc⟩
        exact ⟨t, .refl, bare, (site_of_recurse h).resolve_right fun ⟨c, hc, _⟩ => bare c hc⟩

/-! ## All nodes -/

theorem operand_mem_nodes (h : s.recurse t = .ok n) (hc : some c ∈ t.operands) :
    ∃ m ∈ n.nodes, s.recurse c = .ok m := by
  rcases recurse_cases h with ⟨d, around, hd⟩ | ⟨values, hvalues, built⟩
  · rw [around.2] at hc
    obtain rfl := Option.some.inj (List.mem_singleton.mp hc)
    exact ⟨n, Node.self_mem_nodes n, hd⟩
  · obtain ⟨m, hm, hmc⟩ := exists_of_mapM_eq_ok hvalues hc
    refine ⟨m, ?_, hmc⟩
    rcases built.children_eq with ⟨hleaf, -⟩ | hchildren
    · rw [hleaf] at hc
      cases hc
    · exact Node.child_mem_nodes (Node.self_mem_nodes n) (hchildren ▸ hm)

/-- The node of every tree that is entered is among the nodes of the result. -/
theorem entered_mem_nodes (h : s.recurse root = .ok n) (entered : root.Entered t) :
    ∃ m ∈ n.nodes, s.recurse t = .ok m := by
  induction entered with
  | refl => exact ⟨n, Node.self_mem_nodes n, h⟩
  | tail _ hc ih =>
      obtain ⟨m, hm, hmt⟩ := ih
      obtain ⟨k, hk, hkc⟩ := operand_mem_nodes hmt hc
      exact ⟨k, Node.nodes_subset hm hk, hkc⟩

/-- The tree that the root of the result was built for. -/
theorem exists_origin (h : s.recurse t = .ok n) :
    ∃ u values, t.Wraps u ∧ u.operands.mapM s.recurseOperand = .ok values ∧ s.Built u values n := by
  induction t using induct_operands with
  | step t ih =>
      rcases recurse_cases h with ⟨c, around, hc⟩ | ⟨values, hvalues, built⟩
      · obtain ⟨u, values, wraps, origin⟩ := ih c (mem_operands_of_around around) hc
        exact ⟨u, values, .head around wraps, origin⟩
      · exact ⟨t, values, .refl, hvalues, built⟩

/-- The tree that a node of the result was built for. -/
theorem exists_origin_of_mem (h : s.recurse root = .ok n) (hm : m ∈ n.nodes) :
    ∃ u values, root.Entered u ∧ u.operands.mapM s.recurseOperand = .ok values ∧
      s.Built u values m := by
  induction root using induct_operands generalizing n with
  | step root ih =>
      -- A node below the root of the result is a node of an operand.
      have below : ∀ c k, some c ∈ root.operands → s.recurse c = .ok k → m ∈ k.nodes →
          ∃ u values, root.Entered u ∧ u.operands.mapM s.recurseOperand = .ok values ∧
            s.Built u values m := by
        intro c k hc hk hmk
        obtain ⟨u, values, entered, origin⟩ := ih c hc hk hmk
        exact ⟨u, values, .head hc entered, origin⟩
      rcases recurse_cases h with ⟨c, around, hc⟩ | ⟨values, hvalues, built⟩
      · exact below c n (mem_operands_of_around around) hc hm
      · rcases Node.mem_nodes.mp hm with rfl | ⟨k, hk, hmk⟩
        · exact ⟨root, values, .refl, hvalues, built⟩
        · rcases built.children_eq with ⟨-, hleaf⟩ | hchildren
          · rw [hleaf] at hk
            cases hk
          · obtain ⟨o, ho, hok⟩ := exists_of_mem_mapM hvalues (hchildren ▸ hk)
            obtain ⟨c, rfl, hc⟩ := exists_of_recurseOperand hok
            exact below c k ho hc hmk

/-! ## Nodes of a known kind -/

/-- A call among the nodes is the node of a call that was entered. -/
theorem exists_call_of_mem {site : Site} {callee : Node} {arguments : List Node}
    (h : s.recurse root = .ok n) (hm : .call site (some callee) arguments ∈ n.nodes) :
    ∃ call, root.Entered call ∧ call.role = .call ∧
      s.recurse call = .ok (.call site (some callee) arguments) := by
  obtain ⟨call, values, entered, hvalues, built⟩ := exists_origin_of_mem h hm
  cases built with
  | call role place _ _ =>
      refine ⟨call, entered, role, ?_⟩
      rw [recurse_eq, hvalues, ok_bind]
      simp only [build, role, place, ok_bind]
      rfl

/-- A call among the nodes was built for a call, from its function and its arguments. -/
theorem exists_call_origin {site : Site} {callee : Node} {arguments : List Node}
    (h : s.recurse root = .ok n) (hm : .call site (some callee) arguments ∈ n.nodes) :
    ∃ call function, root.Entered call ∧ call.role = .call ∧ s.site call.label = .ok site ∧
      call.field? "function" = some function ∧ s.recurse function = .ok callee ∧
      List.Forall₂ (fun c m => s.recurse c = .ok m) call.callArguments arguments := by
  obtain ⟨call, values, entered, hvalues, built⟩ := exists_origin_of_mem h hm
  cases built with
  | call role place _ _ =>
      rw [operands, role] at hvalues
      obtain ⟨hfunction, harguments⟩ := List.forall₂_cons.mp (mapM_eq_ok_iff.mp hvalues)
      obtain ⟨function, hfield, hfunction⟩ := exists_of_recurseOperand hfunction
      exact ⟨call, function, entered, role, place, hfield, hfunction,
        List.forall₂_map_left_iff.mp harguments⟩

/-- A plain access was built for an access, from its object and its property. -/
theorem exists_access_origin {site : Site} {object property : Node}
    (h : s.recurse t = .ok (.member site object property false)) :
    ∃ access receiver key, t.Wraps access ∧ access.role = .member ∧
      access.field? "object" = some receiver ∧ s.recurse receiver = .ok object ∧
      access.field? "property" = some key ∧ s.recurse key = .ok property := by
  obtain ⟨access, values, wraps, hvalues, built⟩ := exists_origin h
  cases built with
  | member role place _ _ =>
      rw [operands, role] at hvalues
      obtain ⟨hobject, hrest⟩ := List.forall₂_cons.mp (mapM_eq_ok_iff.mp hvalues)
      obtain ⟨hproperty, -⟩ := List.forall₂_cons.mp hrest
      obtain ⟨receiver, hreceiver, hobject⟩ := exists_of_recurseOperand hobject
      obtain ⟨key, hkey, hproperty⟩ := exists_of_recurseOperand hproperty
      exact ⟨access, receiver, key, wraps, role, hreceiver, hobject, hkey, hproperty⟩

/-- An identifier was built for a name, which is its text. -/
theorem exists_name_origin {site : Site} {text : String}
    (h : s.recurse t = .ok (.identifier site text)) :
    ∃ name, t.Wraps name ∧ name.role = .name ∧ s.site name.label = .ok site ∧
      s.textOf name.label = .ok text.toList := by
  obtain ⟨name, _, wraps, -, built⟩ := exists_origin h
  cases built with
  | name role place _ spelled => exact ⟨name, wraps, role, place, spelled⟩

end SourceText

/-! ## Method calls -/

/-- The second tree is the name of the method that the first calls: the function of the call is a plain
access, and its property is the name. Either may stand in parentheses. -/
def Tree.MethodName (call name : Tree) : Prop :=
  call.role = .call ∧ ∃ function access property,
    call.field? "function" = some function ∧ function.Wraps access ∧ access.role = .member ∧
      access.field? "property" = some property ∧ property.Wraps name ∧ name.role = .name

theorem Tree.MethodName.below {call name : Tree} (h : call.MethodName name) : call.Below name := by
  obtain ⟨-, function, access, property, hfunction, hwraps, -, hproperty, hwraps', -⟩ := h
  have haccess : call.Below access :=
    (below_of_field? hfunction).trans_left (contains_of_wraps hwraps)
  exact haccess.trans ((below_of_field? hproperty).trans_left (contains_of_wraps hwraps'))

theorem Tree.MethodName.role_name {call name : Tree} (h : call.MethodName name) :
    name.role = .name := by
  obtain ⟨-, _, _, _, -, -, -, -, -, hrole⟩ := h
  exact hrole

/-- The trees that a method call is written with. -/
structure MethodCall where
  call : Tree
  function : Tree
  /-- The plain access that the function is, but for parentheses. -/
  access : Tree
  receiver : Tree
  key : Tree
  /-- The name that the key is, but for parentheses. -/
  name : Tree

/-- The trees are those of a method call, and the nodes were built for them: the call, its receiver and
the name of the method, which is a text. -/
structure MethodCall.Writes (w : MethodCall) (s : SourceText) (call receiver name : Node)
    (text : String) : Prop where
  role : w.call.role = .call
  function : w.call.field? "function" = some w.function
  wraps : w.function.Wraps w.access
  plain : w.access.role = .member
  object : w.access.field? "object" = some w.receiver
  property : w.access.field? "property" = some w.key
  wrapsName : w.key.Wraps w.name
  roleName : w.name.role = .name
  site : s.site w.call.label = .ok call.site
  lowered : s.recurse w.receiver = .ok receiver
  siteName : s.site w.name.label = .ok name.site
  spelled : s.textOf w.name.label = .ok text.toList
  arguments : List.Forall₂ (fun c m => s.recurse c = .ok m) w.call.callArguments call.arguments

namespace MethodCall.Writes

variable {w : MethodCall} {s : SourceText} {call receiver name : Node} {text : String}

theorem methodName (h : w.Writes s call receiver name text) : w.call.MethodName w.name :=
  ⟨h.role, w.function, w.access, w.key, h.function, h.wraps, h.plain, h.property, h.wrapsName,
    h.roleName⟩

theorem contains_function (h : w.Writes s call receiver name text) : w.call.Contains w.function :=
  (below_of_field? h.function).contains

theorem contains_access (h : w.Writes s call receiver name text) : w.call.Contains w.access :=
  h.contains_function.trans (contains_of_wraps h.wraps)

theorem contains_receiver (h : w.Writes s call receiver name text) : w.call.Contains w.receiver :=
  h.contains_access.trans (below_of_field? h.object).contains

theorem contains_key (h : w.Writes s call receiver name text) : w.call.Contains w.key :=
  h.contains_access.trans (below_of_field? h.property).contains

theorem function_contains_name (h : w.Writes s call receiver name text) :
    w.function.Contains w.name :=
  (contains_of_wraps h.wraps).trans
    ((below_of_field? h.property).contains.trans (contains_of_wraps h.wrapsName))

end MethodCall.Writes

namespace SourceText

variable {s : SourceText} {root : Tree} {n m callee : Node} {text : String}

/-- A method call among the nodes was built for one that is written. From the call this leads to its
function and on to the name; parentheses may stand around either. -/
theorem exists_methodCall (h : s.recurse root = .ok n) (hm : m ∈ n.nodes)
    (hcallee : m.memberCallee? = some callee) (htext : callee.propertyName? = some text) :
    ∃ w receiver name, root.Entered w.call ∧ callee.object? = some receiver ∧
      callee.property? = some name ∧ MethodCall.Writes w s m receiver name text := by
  obtain ⟨site, arguments, rfl⟩ := Node.exists_of_memberCallee? hcallee
  obtain ⟨accessSite, object, nameSite, rfl⟩ := Node.exists_of_propertyName? htext
  obtain ⟨call, function, entered, role, place, hfunction, hcallee, harguments⟩ :=
    exists_call_origin h hm
  obtain ⟨access, receiver, key, wraps, plain, hobject, lowered, hproperty, hkey⟩ :=
    exists_access_origin hcallee
  obtain ⟨name, wrapsName, roleName, siteName, spelled⟩ := exists_name_origin hkey
  exact ⟨⟨call, function, access, receiver, key, name⟩, object, _, entered, rfl, rfl,
    ⟨role, hfunction, wraps, plain, hobject, hproperty, wrapsName, roleName, place, lowered, siteName,
      spelled, harguments⟩⟩

/-- A method call among the nodes was built for a call that is written with the name of the method. -/
theorem exists_methodName (h : s.recurse root = .ok n) (hm : m ∈ n.nodes)
    (hcallee : m.memberCallee? = some callee) (htext : callee.propertyName? = some text) :
    ∃ call name property, root.Entered call ∧ call.MethodName name ∧
      callee.property? = some property ∧ s.site call.label = .ok m.site ∧
      s.site name.label = .ok property.site := by
  obtain ⟨w, receiver, name, entered, -, hproperty, writes⟩ := exists_methodCall h hm hcallee htext
  exact ⟨w.call, w.name, name, entered, writes.methodName, hproperty, writes.site, writes.siteName⟩

end SourceText

end ChainLint.Concrete
