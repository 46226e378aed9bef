import ChainLint.Proofs.Concrete.Containment
import ChainLint.Proofs.Except

/-!
# Lowering as a recursion

`SourceText.run` lowers a tree with two stacks: pending work, and finished nodes. The same nodes come
from a plain recursion, `SourceText.recurse`, which lowers the operands of a tree from left to right and
then builds the node; the two agree also in their failures (`lower_eq_recurse`).

Why they agree is seen from inside the loop. `Turn` is one turn of it, and `Aligned` the invariant: the
finished nodes are the results of those operands of the nodes under construction that stand to the left
of what is pending. So the operands that a node takes off the stack are its own, and one node is left at
the end (`lower_follows_recursion`).
-/

namespace ChainLint.Concrete

/-! ## The recursion -/

/-- An operand is smaller than the tree it is an operand of. -/
theorem Tree.size_lt_of_mem_operands {t c : Tree} (h : some c ∈ t.operands) : c.size < t.size :=
  size_lt_of_below (below_of_mem_operands h)

namespace SourceText

/-- Lower the operands of a tree, from left to right, and build its node from the results. -/
def recurse (s : SourceText) (t : Tree) : Except LowerError Node := do
  let operands ← t.operands.attach.mapM fun
    | ⟨none, _⟩ => .error .partMissing
    | ⟨some c, _⟩ => s.recurse c
  s.build t operands
termination_by t.size
decreasing_by exact Tree.size_lt_of_mem_operands ‹_›

/-- Lower an operand; a needed part that is missing has no node. -/
def recurseOperand (s : SourceText) : Option Tree → Except LowerError Node
  | none => .error .partMissing
  | some c => s.recurse c

theorem recurse_eq (s : SourceText) (t : Tree) :
    s.recurse t = t.operands.mapM s.recurseOperand >>= s.build t := by
  rw [recurse, List.mapM_subtype (g := s.recurseOperand), List.unattach_attach]
  rintro (_ | c) _ <;> rfl

theorem recurse_eq_ok {s : SourceText} {t : Tree} {n : Node} (h : s.recurse t = .ok n) :
    ∃ values, t.operands.mapM s.recurseOperand = .ok values ∧ s.build t values = .ok n := by
  rw [recurse_eq] at h
  exact exists_of_bind_eq_ok h

theorem recurse_of_operands {s : SourceText} {t : Tree} {values : List Node} {n : Node}
    (h : List.Forall₂ (fun o m => s.recurseOperand o = .ok m) t.operands values)
    (hbuild : s.build t values = .ok n) : s.recurse t = .ok n := by
  rw [recurse_eq, mapM_eq_ok_iff.mpr h, ok_bind, hbuild]

/-- Parentheses around one expression have the node of the expression. -/
theorem recurse_of_around (s : SourceText) {t c : Tree} (h : t.Around c) :
    s.recurse t = s.recurse c := by
  have hbuild : ∀ n, s.build t [n] = .ok n := by
    intro n
    unfold build
    rw [h.1]
  rw [recurse_eq, h.2, List.mapM_cons, recurseOperand]
  cases s.recurse c with
  | error e => rfl
  | ok n => exact hbuild n

/-- Lowering a tree, given how its operands are lowered. -/
theorem induct_operands {P : Tree → Prop} (step : ∀ t, (∀ c, some c ∈ t.operands → P c) → P t)
    (t : Tree) : P t :=
  step t fun c hc =>
    have := Tree.size_lt_of_mem_operands hc
    induct_operands step c
termination_by t.size

/-! ## The loop follows the recursion -/

theorem run_nil (s : SourceText) (done : List Node) : s.run [] done = .ok done := by
  rw [run]

theorem run_build (s : SourceText) (t : Tree) (count : Nat) (rest : List Task) (done : List Node) :
    s.run (.build t count :: rest) done =
      s.build t (done.take count).reverse >>= fun n => s.run rest (n :: done.drop count) := by
  rw [run]
  cases s.build t (done.take count).reverse <;> rfl

/-- Operands on the stack are lowered one after the other, if each of them is. -/
theorem run_operands {s : SourceText} {os : List (Option Tree)}
    (h : ∀ c, some c ∈ os → ∀ rest done,
      s.run (.enter (some c) :: rest) done = s.recurse c >>= fun n => s.run rest (n :: done))
    (rest : List Task) (done : List Node) :
    s.run (os.map .enter ++ rest) done =
      os.mapM s.recurseOperand >>= fun values => s.run rest (values.reverse ++ done) := by
  induction os generalizing done with
  | nil => rfl
  | cons o os ih =>
      have hrest := ih fun c hc => h c (List.mem_cons_of_mem _ hc)
      rw [List.map_cons, List.cons_append, List.mapM_cons]
      match o with
      | none =>
          rw [run]
          rfl
      | some c =>
          rw [h c (List.mem_cons_self ..), recurseOperand]
          cases s.recurse c with
          | error e => rfl
          | ok n =>
              show s.run (os.map .enter ++ rest) (n :: done) = _
              rw [hrest]
              cases os.mapM s.recurseOperand with
              | error e => rfl
              | ok values => simp [bind, Except.bind, pure, Except.pure]

/-- A tree on top of the pending work leaves its node on top of the finished ones, or its failure is the
failure of the loop. -/
theorem run_enter (s : SourceText) (t : Tree) (rest : List Task) (done : List Node) :
    s.run (.enter (some t) :: rest) done = s.recurse t >>= fun n => s.run rest (n :: done) := by
  induction t using induct_operands generalizing rest done with
  | step t ih =>
      rw [run, run_operands ih, recurse_eq]
      cases h : t.operands.mapM s.recurseOperand with
      | error e => rfl
      | ok values =>
          have hlength : values.length = t.operands.length :=
            (mapM_eq_ok_iff.mp h).length_eq.symm
          -- The values lie on top of `done`, the last one first, and there are as many as operands.
          show s.run (.build t t.operands.length :: rest) (values.reverse ++ done) = _
          rw [run_build, ← hlength, List.take_left' (List.length_reverse ..),
            List.drop_left' (List.length_reverse ..), List.reverse_reverse]
          rfl

/-- All of the loop: one node is left at the end. -/
theorem run_start (s : SourceText) (t : Tree) :
    s.run [.enter (some t)] [] = (s.recurse t).map fun n => [n] := by
  rw [run_enter]
  cases s.recurse t with
  | error e => rfl
  | ok n => exact s.run_nil [n]

theorem lower_eq_recurse (s : SourceText) (t : Tree) : s.lower t = s.recurse t := by
  rw [lower, run_start]
  cases s.recurse t <;> rfl

/-! ## Inside the loop -/

/-- The two stacks of the loop. -/
structure Stacks where
  pending : List Task
  done : List Node

/-- The stacks before the first turn. -/
def Stacks.start (root : Tree) : Stacks := ⟨[.enter (some root)], []⟩

/-- One turn of the loop. -/
inductive Turn (s : SourceText) : Stacks → Stacks → Prop where
  | enter (t : Tree) (rest : List Task) (done : List Node) :
      Turn s ⟨.enter (some t) :: rest, done⟩
        ⟨t.operands.map .enter ++ .build t t.operands.length :: rest, done⟩
  | build {t : Tree} {count : Nat} {rest : List Task} {done : List Node} {n : Node}
      (h : s.build t (done.take count).reverse = .ok n) :
      Turn s ⟨.build t count :: rest, done⟩ ⟨rest, n :: done.drop count⟩

/-- No turn is left: the work is done, or a turn fails. -/
inductive Halts (s : SourceText) : Stacks → Except LowerError (List Node) → Prop where
  | finished (done : List Node) : Halts s ⟨[], done⟩ (.ok done)
  | missing (rest : List Task) (done : List Node) :
      Halts s ⟨.enter none :: rest, done⟩ (.error .partMissing)
  | refused {t : Tree} {count : Nat} {rest : List Task} {done : List Node} {e : LowerError}
      (h : s.build t (done.take count).reverse = .error e) :
      Halts s ⟨.build t count :: rest, done⟩ (.error e)

variable {s : SourceText} {root : Tree} {a b : Stacks}

theorem turns_or_halts (s : SourceText) (a : Stacks) :
    (∃ b, Turn s a b) ∨ ∃ r, Halts s a r := by
  match a with
  | ⟨[], done⟩ => exact .inr ⟨_, .finished done⟩
  | ⟨.enter none :: rest, done⟩ => exact .inr ⟨_, .missing rest done⟩
  | ⟨.enter (some t) :: rest, done⟩ => exact .inl ⟨_, .enter t rest done⟩
  | ⟨.build t count :: rest, done⟩ =>
      match h : s.build t (done.take count).reverse with
      | .ok n => exact .inl ⟨_, .build h⟩
      | .error e => exact .inr ⟨_, .refused h⟩

theorem Turn.run_eq (h : Turn s a b) : s.run a.pending a.done = s.run b.pending b.done := by
  cases h with
  | enter t rest done => rw [run]
  | build h => rw [run_build, h]; rfl

theorem Halts.run_eq {r : Except LowerError (List Node)} (h : Halts s a r) :
    s.run a.pending a.done = r := by
  cases h with
  | finished done => exact s.run_nil done
  | missing rest done => rw [run]
  | refused h => rw [run_build, h]; rfl

/-- The work that is pending. -/
def Stacks.weight (a : Stacks) : Nat := sumOver Task.weight a.pending

theorem Turn.weight_lt (h : Turn s a b) : b.weight < a.weight := by
  cases h with
  | enter t rest done =>
      have hlt := Task.sum_weight_operands t
      simp only [Stacks.weight, sumOver_append, sumOver_map, sumOver_cons, Task.weight] at hlt ⊢
      omega
  | build h => simp [Stacks.weight, Task.weight]

/-- There is no endless run of turns. -/
theorem wellFounded_turn (s : SourceText) : WellFounded fun b a => Turn s a b :=
  Subrelation.wf Turn.weight_lt (measure Stacks.weight).wf

theorem reaches_halt (s : SourceText) (a : Stacks) :
    ∃ b, Relation.ReflTransGen (Turn s) a b ∧ Halts s b (s.run a.pending a.done) := by
  induction a using s.wellFounded_turn.induction with
  | _ a ih =>
      rcases turns_or_halts s a with ⟨b, turn⟩ | ⟨r, halt⟩
      · obtain ⟨c, run, halt⟩ := ih b turn
        exact ⟨c, .head turn run, turn.run_eq ▸ halt⟩
      · exact ⟨a, .refl, halt.run_eq.symm ▸ halt⟩

/-! ## The invariant -/

/-- The finished nodes are the results of the left siblings of what is pending: for every node under
construction, the results of its operands up to the one that is worked on, the innermost node on top. -/
inductive Aligned (s : SourceText) (root : Tree) : List Task → List Node → Prop where
  | start : Aligned s root [.enter (some root)] []
  /-- Below the tree `t`: its operands on the left are finished, those on the right are pending. -/
  | within {t : Tree} {rest : List Task} {below values : List Node} {left right : List (Option Tree)}
      (outer : Aligned s root (.enter (some t) :: rest) below)
      (split : t.operands = left ++ right)
      (finished : left.mapM s.recurseOperand = .ok values) :
      Aligned s root (right.map .enter ++ .build t t.operands.length :: rest)
        (values.reverse ++ below)
  | finish {n : Node} (h : s.recurse root = .ok n) : Aligned s root [] [n]

namespace Aligned

variable {t : Tree} {rest : List Task} {done : List Node}

/-- The tree on top may be replaced by its node. -/
theorem advance {n : Node} (h : Aligned s root (.enter (some t) :: rest) done)
    (hn : s.recurse t = .ok n) : Aligned s root rest (n :: done) := by
  generalize hp : Task.enter (some t) :: rest = pending at h
  cases h with
  | start =>
      obtain ⟨ht, rfl⟩ := List.cons.inj hp
      cases ht
      exact .finish hn
  | @within u rest' below values left right outer split finished =>
      match right with
      | [] => cases hp
      | o :: right =>
          obtain ⟨ho, rfl⟩ := List.cons.inj hp
          cases ho
          -- The operand on top moves from the right of the split to its left.
          have finished' : (left ++ [some t]).mapM s.recurseOperand = .ok (values ++ [n]) := by
            rw [List.mapM_append, finished, List.mapM_cons, recurseOperand, hn]
            rfl
          have h := outer.within (split.trans (List.append_cons ..)) finished'
          rwa [List.reverse_append] at h
  | finish h => cases hp

/-- A node to be built has the results of all of its operands on top, and of nothing else. -/
theorem of_build {count : Nat} (h : Aligned s root (.build t count :: rest) done) :
    ∃ values below, count = t.operands.length ∧ values.reverse.length = count ∧
      done = values.reverse ++ below ∧ t.operands.mapM s.recurseOperand = .ok values ∧
      Aligned s root (.enter (some t) :: rest) below := by
  generalize hp : Task.build t count :: rest = pending at h
  cases h with
  | start => cases hp
  | @within u rest' below values left right outer split finished =>
      match right with
      | [] =>
          cases hp
          rw [List.append_nil] at split
          have hvalues : t.operands.mapM s.recurseOperand = .ok values := split ▸ finished
          have hlength : values.reverse.length = t.operands.length := by
            rw [List.length_reverse]
            exact (mapM_eq_ok_iff.mp hvalues).length_eq.symm
          exact ⟨values, below, rfl, hlength, rfl, hvalues, outer⟩
      | o :: right => cases hp
  | finish h => cases hp

/-- What a node takes off the stack are the results of its own operands. -/
theorem take_build {count : Nat} (h : Aligned s root (.build t count :: rest) done) :
    count = t.operands.length ∧ count ≤ done.length ∧
      t.operands.mapM s.recurseOperand = .ok (done.take count).reverse := by
  obtain ⟨values, below, hcount, hlength, rfl, hvalues, -⟩ := h.of_build
  refine ⟨hcount, ?_, ?_⟩
  · rw [List.length_append]
    omega
  · rw [List.take_left' hlength, List.reverse_reverse]
    exact hvalues

/-- When all work is done, the one node left is that of the root. -/
theorem of_nil (h : Aligned s root [] done) : ∃ n, done = [n] ∧ s.recurse root = .ok n := by
  generalize hp : ([] : List Task) = pending at h
  cases h with
  | start => cases hp
  | @within u rest' below values left right outer split finished => cases right <;> cases hp
  | @finish n h => exact ⟨n, rfl, h⟩

end Aligned

theorem Turn.aligned (turn : Turn s a b) (h : Aligned s root a.pending a.done) :
    Aligned s root b.pending b.done := by
  cases turn with
  | enter t rest done => exact h.within (List.nil_append _).symm rfl
  | @build t count rest done n hn =>
      obtain ⟨values, below, -, hlength, rfl, hvalues, outer⟩ := h.of_build
      rw [List.take_left' hlength, List.reverse_reverse] at hn
      show Aligned s root rest (n :: (values.reverse ++ below).drop count)
      rw [List.drop_left' hlength]
      refine outer.advance ?_
      rw [recurse_eq, hvalues]
      exact hn

/-- The invariant holds before and after every turn. -/
theorem aligned_of_reaches (h : Relation.ReflTransGen (Turn s) (.start root) a) :
    Aligned s root a.pending a.done := by
  induction h with
  | refl => exact .start
  | tail _ turn ih => exact turn.aligned ih

theorem run_of_reaches (h : Relation.ReflTransGen (Turn s) a b) :
    s.run a.pending a.done = s.run b.pending b.done := by
  induction h with
  | refl => rfl
  | tail _ turn ih => exact ih.trans turn.run_eq

/-- The loop is the recursion. Its runs are finite; each ends with what the recursion gives, one node or
the same failure; and between any two turns the finished nodes are those of the left siblings of what is
pending, so that a node is built from its own operands, and from all of them. -/
theorem lower_follows_recursion (s : SourceText) (root : Tree) :
    s.lower root = s.recurse root ∧
    (∀ t, s.recurse t = t.operands.mapM s.recurseOperand >>= s.build t) ∧
    (WellFounded fun b a => Turn s a b) ∧
    (∃ last, Relation.ReflTransGen (Turn s) (.start root) last ∧
      Halts s last ((s.recurse root).map fun n => [n])) ∧
    ∀ a, Relation.ReflTransGen (Turn s) (.start root) a →
      s.run a.pending a.done = s.run [.enter (some root)] [] ∧
      Aligned s root a.pending a.done ∧
      (∀ t count rest, a.pending = .build t count :: rest →
        count = t.operands.length ∧ count ≤ a.done.length ∧
          t.operands.mapM s.recurseOperand = .ok (a.done.take count).reverse) ∧
      (a.pending = [] → ∃ n, a.done = [n] ∧ s.recurse root = .ok n) := by
  refine ⟨s.lower_eq_recurse root, s.recurse_eq, s.wellFounded_turn, ?_, fun a reached => ?_⟩
  · obtain ⟨last, reached, halt⟩ := reaches_halt s (.start root)
    exact ⟨last, reached, s.run_start root ▸ halt⟩
  · have aligned := aligned_of_reaches reached
    refine ⟨(run_of_reaches reached).symm, aligned, ?_, ?_⟩
    · intro t count rest hpending
      exact (hpending ▸ aligned).take_build
    · intro hpending
      exact (hpending ▸ aligned).of_nil

/-- A plain access, and the trees of its object and its property. -/
def access : String := "a.b"

def accessObject : Tree := .node ⟨1, some "object", "identifier", 0, 1, 0, 0⟩ []

def accessProperty : Tree := .node ⟨2, some "property", "property_identifier", 2, 3, 0, 2⟩ []

def accessTree : Tree :=
  .node ⟨0, none, "member_expression", 0, 3, 0, 0⟩ [accessObject, accessProperty]

def accessValues : List Node :=
  [.identifier ⟨1, ⟨0, 1⟩, ⟨1, 0⟩⟩ "a", .identifier ⟨2, ⟨2, 3⟩, ⟨1, 2⟩⟩ "b"]

/-- The access is about to be built, with the nodes of object and property on the stack. -/
theorem reaches_access : Relation.ReflTransGen (Turn (ofString access)) (.start accessTree)
    ⟨[.build accessTree 2], accessValues.reverse⟩ := by
  refine .head (.enter accessTree [] []) ?_
  refine .head (.enter accessObject _ _) ?_
  refine .head (.build (n := accessValues[0]) rfl) ?_
  refine .head (.enter accessProperty _ _) ?_
  exact .single (.build (n := accessValues[1]) rfl)

theorem lower_follows_recursion_access :
    accessTree.operands.mapM (ofString access).recurseOperand = .ok accessValues ∧
      (ofString access).lower accessTree =
        .ok (.member ⟨0, ⟨0, 3⟩, ⟨1, 0⟩⟩ accessValues[0] accessValues[1] false) := by
  obtain ⟨hlower, -, -, -, hreached⟩ := lower_follows_recursion (ofString access) accessTree
  obtain ⟨-, -, hbuild, -⟩ := hreached _ reaches_access
  obtain ⟨-, -, -, hdone⟩ := hreached _ (reaches_access.tail (.build rfl))
  obtain ⟨n, hn, hrecurse⟩ := hdone rfl
  obtain ⟨rfl, -⟩ := List.cons.inj hn
  exact ⟨(hbuild accessTree 2 [] rfl).2.2, hlower.trans hrecurse⟩

end SourceText

end ChainLint.Concrete
