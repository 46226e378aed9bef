import Mathlib.Logic.Relation
import ChainLint.Concrete.Lowering

/-!
# Trees below a tree

A tree stands below another if it is a child of it, or of a tree below it (`Below`), and is contained in
it if it stands below it or is the tree itself (`Contains`). The operands of a tree, which are entered
when it is lowered (`Entered`), all stand below it. Parentheses around one expression (`Around`) have it
as their one operand.
-/

namespace ChainLint.Concrete.Tree

/-- The second tree is a child of the first. -/
def IsChild (t c : Tree) : Prop := c ∈ t.children

/-- The second tree stands below the first. -/
def Below : Tree → Tree → Prop := Relation.TransGen IsChild

/-- The second tree is the first or stands below it. -/
def Contains : Tree → Tree → Prop := Relation.ReflTransGen IsChild

variable {root t c : Tree}

theorem Below.contains (h : t.Below c) : t.Contains c := h.to_reflTransGen

/-- What a tree contains is the tree itself or contained in a child. -/
theorem contains_cases (h : root.Contains t) : t = root ∨ ∃ c ∈ root.children, c.Contains t := by
  rcases Relation.ReflTransGen.cases_head h with rfl | ⟨c, hc, h⟩
  · exact .inl rfl
  · exact .inr ⟨c, hc, h⟩

/-- A node is the tree itself or stands below it. -/
theorem below_of_contains_ne (h : t.Contains c) (hne : c ≠ t) : t.Below c :=
  (Relation.reflTransGen_iff_eq_or_transGen.mp h).resolve_left hne

/-- Something holds of all that a tree contains if it holds of the tree and of all that its children
contain. -/
theorem forall_contains_node {P : Tree → Prop} {label : Label} {children : List Tree} :
    (∀ u, (node label children).Contains u → P u) ↔
      P (node label children) ∧ ∀ c ∈ children, ∀ u, c.Contains u → P u := by
  constructor
  · intro h
    exact ⟨h _ .refl, fun c hc u hu => h u (.head hc hu)⟩
  · rintro ⟨ht, hchildren⟩ u hu
    rcases contains_cases hu with rfl | ⟨c, hc, hu⟩
    · exact ht
    · exact hchildren c hc u hu

section

variable (P : Tree → Prop) [DecidablePred P]

mutual

/-- Whether something holds of all that a tree contains. -/
def decideContains : (t : Tree) → Decidable (∀ u, t.Contains u → P u)
  | .node label children =>
    have := decideChildren children
    decidable_of_iff
      (P (.node label children) ∧ ∀ c ∈ children, ∀ u, c.Contains u → P u) forall_contains_node.symm

def decideChildren : (children : List Tree) →
    Decidable (∀ c ∈ children, ∀ u, c.Contains u → P u)
  | [] => .isTrue nofun
  | c :: rest =>
    have := decideContains c
    have := decideChildren rest
    decidable_of_iff
      ((∀ u, c.Contains u → P u) ∧ ∀ d ∈ rest, ∀ u, d.Contains u → P u)
      (List.forall_mem_cons (p := fun d : Tree => ∀ u, d.Contains u → P u)).symm

end

instance (t : Tree) : Decidable (∀ u, t.Contains u → P u) := decideContains P t

end

theorem size_lt_of_below (h : t.Below c) : c.size < t.size := by
  induction h with
  | single hc => exact size_lt_of_mem hc
  | tail _ hc ih => exact Nat.lt_trans (size_lt_of_mem hc) ih

/-! ## Roles -/

/-- Which kinds have which role: one case for each line of the definition. -/
inductive GivenRole : String → Role → Prop
  | call : GivenRole "call_expression" .call
  | member : GivenRole "member_expression" .member
  | subscript : GivenRole "subscript_expression" .subscript
  | parentheses : GivenRole "parenthesized_expression" .parentheses
  | name {kind : String} (h : kind ∈ Role.names) : GivenRole kind .name
  | text : GivenRole "string" .text
  | number : GivenRole "number" .number
  | true : GivenRole "true" (.truth Bool.true)
  | false : GivenRole "false" (.truth Bool.false)
  | null : GivenRole "null" .null
  | regex : GivenRole "regex" .regex
  | construct (kind : String) : GivenRole kind (.construct ((Role.renamed.lookup kind).getD kind))

theorem givenRole_ite {p : Prop} [Decidable p] {kind : String} {a b : Role} (ha : p → GivenRole kind a)
    (hb : GivenRole kind b) : GivenRole kind (if p then a else b) := by
  split
  · exact ha ‹_›
  · exact hb

theorem givenRole_ofKind (kind : String) : GivenRole kind (Role.ofKind kind) := by
  unfold Role.ofKind
  exact givenRole_ite (fun h => h ▸ .call) (givenRole_ite (fun h => h ▸ .member)
    (givenRole_ite (fun h => h ▸ .subscript) (givenRole_ite (fun h => h ▸ .parentheses)
    (givenRole_ite (fun h => .name (List.contains_iff_mem.mp h)) (givenRole_ite (fun h => h ▸ .text)
    (givenRole_ite (fun h => h ▸ .number) (givenRole_ite (fun h => h ▸ .true)
    (givenRole_ite (fun h => h ▸ .false) (givenRole_ite (fun h => h ▸ .null)
    (givenRole_ite (fun h => h ▸ .regex) (.construct kind)))))))))))

theorem kind_of_role_call {kind : String} (h : Role.ofKind kind = .call) : kind = "call_expression" := by
  have given := givenRole_ofKind kind
  rw [h] at given
  cases given
  rfl

theorem kind_of_role_parentheses {kind : String} (h : Role.ofKind kind = .parentheses) :
    kind = "parenthesized_expression" := by
  have given := givenRole_ofKind kind
  rw [h] at given
  cases given
  rfl

theorem kind_of_role_text {kind : String} (h : Role.ofKind kind = .text) : kind = "string" := by
  have given := givenRole_ofKind kind
  rw [h] at given
  cases given
  rfl

/-- A construct keeps its kind, unless it is renamed. -/
theorem kind_of_role_construct {kind k : String} (h : Role.ofKind kind = .construct k) :
    (Role.renamed.lookup kind).getD kind = k := by
  have given := givenRole_ofKind kind
  rw [h] at given
  cases given
  rfl

/-! ## Operands -/

theorem below_of_field? {name : String} (h : t.field? name = some c) : t.Below c :=
  .single (List.mem_of_find?_eq_some h)

theorem label_of_field? {name : String} (h : t.field? name = some c) :
    c.label.field? = some name := by
  have hfield : (c.label.field? == some name) = true :=
    List.find?_some (p := fun d : Tree => d.label.field? == some name) h
  exact beq_iff_eq.mp hfield

theorem below_of_mem_parts (h : c ∈ t.parts) : t.Below c := .single (List.mem_filter.mp h).1

theorem below_of_mem_callArguments (h : c ∈ t.callArguments) : t.Below c := by
  unfold callArguments at h
  split at h
  · cases h
  · rename_i list hlist
    split at h
    · exact (below_of_field? hlist).trans (below_of_mem_parts h)
    · obtain rfl := List.mem_singleton.mp h
      exact below_of_field? hlist

/-- An argument is the child in the field of the arguments, or stands in it. -/
theorem contains_of_mem_callArguments {list : Tree} (hlist : t.field? "arguments" = some list)
    (h : c ∈ t.callArguments) : list.Contains c := by
  unfold callArguments at h
  rw [hlist] at h
  dsimp only at h
  split at h
  · exact (below_of_mem_parts h).contains
  · obtain rfl := List.mem_singleton.mp h
    exact .refl

theorem below_of_mem_operands (h : some c ∈ t.operands) : t.Below c := by
  unfold operands at h
  split at h
  · rcases List.mem_cons.mp h with h | h
    · exact below_of_field? h.symm
    · obtain ⟨c, hc, ⟨⟩⟩ := List.mem_map.mp h
      exact below_of_mem_callArguments hc
  · rcases List.mem_cons.mp h with h | h
    · exact below_of_field? h.symm
    · exact below_of_field? (List.mem_singleton.mp h).symm
  · rcases List.mem_cons.mp h with h | h
    · exact below_of_field? h.symm
    · exact below_of_field? (List.mem_singleton.mp h).symm
  case h_10 | h_11 =>
      obtain ⟨c, hc, ⟨⟩⟩ := List.mem_map.mp h
      exact below_of_mem_parts hc
  all_goals cases h

/-- Parentheses around one expression: they have no node of their own. -/
def Around (t c : Tree) : Prop := t.role = .parentheses ∧ t.operands = [some c]

/-- The second tree is the first without some of the parentheses around it. -/
def Wraps : Tree → Tree → Prop := Relation.ReflTransGen Around

/-- The tree is entered while the other is lowered. -/
def Entered : Tree → Tree → Prop := Relation.ReflTransGen fun t c => some c ∈ t.operands

theorem contains_of_entered (h : t.Entered c) : t.Contains c := by
  induction h with
  | refl => exact .refl
  | tail _ hc ih => exact ih.trans (below_of_mem_operands hc).contains

theorem mem_operands_of_around (h : t.Around c) : some c ∈ t.operands := by
  rw [h.2]
  exact List.mem_singleton.mpr rfl

theorem contains_of_wraps (h : t.Wraps c) : t.Contains c := by
  induction h with
  | refl => exact .refl
  | tail _ around ih => exact ih.trans (below_of_mem_operands (mem_operands_of_around around)).contains

end ChainLint.Concrete.Tree
