import ChainLint.Pattern
import ChainLint.Proofs.Except

/-!
# Reading a pattern never runs out of fuel

The readers of a pattern are given fuel, and refuse a pattern as too deep when it is used up. They never
do, because every round takes a symbol: with `n` symbols left a loop needs `n + 1` units, a sequence
`3 * n + 1`, alternatives `3 * n + 2` and a group `3 * n + 3` (`fueled`).

`Safe n` says of a reader that `n` symbols are few enough for it, and that it does not leave more than
that. It is carried through the readers by one rule for each way to put them together; the rules that
count are those of `next` and `accept`, behind which there are less than `n` symbols.
-/

namespace ChainLint.Pattern

namespace Reader

variable {α β : Type} {m n : Nat} {r : Reading}

/-- The reader does not run out of fuel from a reading, and leaves at most `n` symbols. -/
def Ensures (x : Reader α) (r : Reading) (n : Nat) : Prop :=
  match x.run r with
  | .ok (_, r') => r'.rest.length ≤ n
  | .error e => e ≠ .tooDeep

/-- The reader does not run out of fuel from at most `n` symbols, and leaves at most `n`. -/
def Safe (n : Nat) (x : Reader α) : Prop := ∀ r : Reading, r.rest.length ≤ n → x.Ensures r n

/-! ## How readers are put together -/

theorem ensures_bind {x : Reader α} {f : α → Reader β} (hx : x.Ensures r m)
    (hf : ∀ a r', x.run r = .ok (a, r') → r'.rest.length ≤ m → (f a).Ensures r' n) :
    (x >>= f).Ensures r n := by
  rw [Ensures] at hx
  rw [Ensures, StateT.run_bind]
  match h : x.run r with
  | .error e =>
      rw [h] at hx
      exact hx
  | .ok (a, r') =>
      rw [h] at hx
      exact hf a r' h hx

theorem Ensures.mono {x : Reader α} (h : x.Ensures r m) (hmn : m ≤ n) : x.Ensures r n := by
  rw [Ensures] at h ⊢
  split at h
  · exact Nat.le_trans h hmn
  · exact h

theorem safe_pure (a : α) : Safe n (pure a) := fun _ h => h

theorem safe_throw {e : Rejection} (h : e ≠ .tooDeep) : Safe n (throw e : Reader α) := fun _ _ => h

theorem safe_bind {x : Reader α} {f : α → Reader β} (hx : Safe n x) (hf : ∀ a, Safe n (f a)) :
    Safe n (x >>= f) :=
  fun r hr => ensures_bind (hx r hr) fun a r' _ hr' => hf a r' hr'

/-- What comes after a look at the reading may rely on the number of symbols left in it. -/
theorem safe_get_bind {f : Reading → Reader β}
    (h : ∀ r : Reading, r.rest.length ≤ n → Safe r.rest.length (f r)) : Safe n (get >>= f) := by
  intro r hr
  have hget : (get : Reader Reading).Ensures r r.rest.length := Nat.le_refl _
  refine ensures_bind hget fun a r' hrun _ => ?_
  cases hrun
  exact (h r hr r (Nat.le_refl _)).mono hr

theorem safe_set (h : r.rest.length ≤ n) : Safe n (set r : Reader PUnit) := fun _ _ => h

theorem safe_modify {f : Reading → Reading} (h : ∀ r, (f r).rest.length ≤ r.rest.length) :
    Safe n (modify f : Reader PUnit) :=
  fun r hr => Nat.le_trans (h r) hr

theorem safe_ite {c : Prop} [Decidable c] {x y : Reader α} (hx : Safe n x) (hy : Safe n y) :
    Safe n (if c then x else y) := by
  split
  · exact hx
  · exact hy

theorem safe_refuse (problem : Problem) (back : Nat) : Safe n (refuse problem back : Reader α) :=
  safe_get_bind fun _ _ => safe_throw nofun

/-- A reading that may be given up first needs what it needs if it is not. -/
theorem safe_throw_if {c : Prop} [Decidable c] {e : Rejection} (he : e ≠ .tooDeep)
    {f : Unit → Reader β} (h : Safe n (f ())) : Safe n (if c then throw e >>= f else f ()) :=
  safe_ite (safe_bind (safe_throw he) fun _ => h) h

theorem safe_refuse_if {c : Prop} [Decidable c] {problem : Problem} {back : Nat}
    {f : Unit → Reader β} (h : Safe n (f ())) :
    Safe n (if c then refuse problem back >>= f else f ()) :=
  safe_ite (safe_bind (safe_refuse problem back) fun _ => h) h

/-! ## One symbol -/

theorem safe_peek : Safe n peek := safe_get_bind fun _ _ => safe_pure _

theorem safe_position : Safe n position := safe_get_bind fun _ _ => safe_pure _

theorem safe_refuseDangling : Safe n refuseDangling :=
  safe_bind safe_peek fun _ => safe_ite (safe_refuse _ _) (safe_pure _)

theorem next_bind_of_nil {f : Option Token → Reader β} (h : r.rest = []) :
    (next >>= f).run r = (f none).run r := by
  simp only [next, bind_assoc, StateT.run_bind, StateT.run_get, StateT.run_pure, pure_bind, h]

theorem next_bind_of_cons {f : Option Token → Reader β} {t : Token} {rest : List Token}
    (h : r.rest = t :: rest) :
    (next >>= f).run r = (refuseDangling >>= fun _ => f (some t)).run
      { r with rest, position := r.position + t.text.length } := by
  simp only [next, bind_assoc, StateT.run_bind, StateT.run_get, StateT.run_set, StateT.run_pure,
    pure_bind, h]

theorem ensures_next_bind {f : Option Token → Reader β} {t : Token} {rest : List Token}
    (h : r.rest = t :: rest) (hn : rest.length ≤ n) (hf : Safe rest.length (f (some t))) :
    (next >>= f).Ensures r n := by
  rw [Ensures, next_bind_of_cons h]
  exact (safe_bind safe_refuseDangling (fun _ => hf) _ (Nat.le_refl _)).mono hn

theorem safe_next_bind {f : Option Token → Reader β} (hnone : Safe n (f none))
    (hsome : ∀ t m, m < n → Safe m (f (some t))) : Safe n (next >>= f) := by
  intro r hr
  match h : r.rest with
  | [] =>
      rw [Ensures, next_bind_of_nil h]
      exact hnone r hr
  | t :: rest =>
      rw [h, List.length_cons] at hr
      exact ensures_next_bind h (Nat.le_of_succ_le hr) (hsome t _ hr)

theorem safe_next : Safe n next := by
  rw [← bind_pure next]
  exact safe_next_bind (safe_pure _) fun _ _ _ => safe_pure _

theorem safe_peek_bind {f : Option Token → Reader β} (hnone : Safe n (f none))
    (hsome : ∀ r t rest, r.rest = t :: rest → rest.length < n → (f (some t)).Ensures r n) :
    Safe n (peek >>= f) := by
  intro r hr
  have hrun : (peek >>= f).run r = (f r.rest.head?).run r := by
    simp only [peek, bind_assoc, StateT.run_bind, StateT.run_get, pure_bind]
  rw [Ensures, hrun]
  match h : r.rest with
  | [] => exact hnone r hr
  | t :: rest =>
      rw [h] at hr
      exact hsome r t rest h hr

theorem safe_accept_bind {c : Char} {f : Bool → Reader β} (hfalse : Safe n (f false))
    (htrue : ∀ m, m < n → Safe m (f true)) : Safe n (accept c >>= f) := by
  rw [accept, bind_assoc]
  refine safe_peek_bind hfalse fun r t rest h hn => ?_
  show Ensures ((if t.is c then _ else _) >>= f) r n
  split
  · rw [bind_assoc]
    exact ensures_next_bind h (Nat.le_of_lt hn) (htrue _ hn)
  · exact hfalse r (h ▸ hn)

theorem safe_accept (c : Char) : Safe n (accept c) := by
  rw [← bind_pure (accept c)]
  exact safe_accept_bind (safe_pure _) fun _ _ => safe_pure _

theorem safe_spanUpTo (test : Char → Bool) (k : Nat) : Safe n (spanUpTo test k) := by
  induction k with
  | zero => exact safe_pure _
  | succ k ih =>
      refine safe_bind safe_peek fun t? => ?_
      split
      · refine safe_ite ?_ (safe_pure _)
        exact safe_bind safe_next fun _ => safe_bind ih fun _ => safe_pure _
      · exact safe_pure _

theorem safe_span (test : Char → Bool) : Safe n (span test) :=
  safe_get_bind fun _ _ => safe_spanUpTo test _

theorem safe_untilFrom (terminator : Char) (kind : NameKind) {fuel : Nat} (h : n < fuel)
    (taken : List Char) : Safe n (untilFrom terminator kind fuel taken) := by
  induction fuel generalizing n taken with
  | zero => exact absurd h (Nat.not_lt_zero n)
  | succ fuel ih =>
      refine safe_next_bind (safe_ite (safe_refuse _ _) (safe_refuse _ _)) fun t m hm => ?_
      refine safe_ite (safe_ite (safe_refuse _ _) (safe_pure _)) ?_
      exact ih (by omega) _

theorem safe_takeUntil (terminator : Char) (kind : NameKind) : Safe n (takeUntil terminator kind) :=
  safe_get_bind fun _ _ => safe_untilFrom terminator kind (Nat.lt_succ_self _) []

/-! ## Groups -/

theorem safe_nextGroup : Safe n nextGroup := safe_get_bind fun _ _ => safe_pure _

theorem safe_isClosed (group : Nat) : Safe n (isClosed group) := safe_get_bind fun _ _ => safe_pure _

theorem safe_openGroup (name : Option String) : Safe n (openGroup name) := by
  refine safe_bind safe_nextGroup fun group => safe_get_bind fun r _ => ?_
  split
  · exact safe_bind (safe_set (Nat.le_refl _)) fun _ => safe_pure _
  · split
    · exact safe_bind (safe_refuse _ _) fun _ => safe_pure _
    · exact safe_bind (safe_set (Nat.le_refl _)) fun _ => safe_pure _

theorem safe_closeGroup (group : Nat) (body : Regex) : Safe n (closeGroup group body) :=
  safe_modify fun _ => Nat.le_refl _

theorem safe_refuseInLookbehind (group : Nat) : Safe n (refuseInLookbehind group) := by
  refine safe_get_bind fun r _ => ?_
  split
  · exact safe_pure _
  · refine safe_bind (safe_isClosed group) fun closed => ?_
    exact safe_ite (safe_refuse _ _) (safe_ite (safe_refuse _ _) (safe_pure _))

end Reader

open Reader

variable {n : Nat}

namespace Escape

/-! ## Escapes -/

theorem safe_hexadecimal (c : Char) (count : Nat) : Safe n (hexadecimal c count) := by
  refine safe_bind (safe_spanUpTo _ _) fun digits => ?_
  exact safe_refuse_if (safe_pure _)

theorem safe_long : Safe n long := by
  refine safe_bind (safe_hexadecimal _ _) fun digits => ?_
  exact safe_ite (safe_pure _) (safe_ite (safe_refuse _ _) (safe_throw nofun))

theorem safe_named : Safe n named := by
  refine safe_bind (safe_accept _) fun brace => safe_refuse_if ?_
  refine safe_bind (safe_takeUntil _ _) fun name => ?_
  split
  · exact safe_pure _
  · exact safe_refuse _ _

theorem safe_octal (c : Char) (more : List Char) : Safe n (octal c more) := by
  rw [octal]
  exact safe_refuse_if (safe_pure _)

theorem safe_common (c : Char) : Safe n (common c) := by
  unfold common
  split
  · exact safe_bind (safe_hexadecimal _ _) fun _ => safe_pure _
  · exact safe_bind (safe_hexadecimal _ _) fun _ => safe_pure _
  · exact safe_long
  · exact safe_named
  · exact safe_ite (safe_refuse _ _) (safe_pure _)

theorem safe_inSet (c : Char) : Safe n (inSet c) := by
  rw [inSet]
  split
  · exact safe_pure _
  · exact safe_pure _
  · refine safe_ite ?_ ?_
    · exact safe_bind (safe_spanUpTo _ _) fun _ => safe_bind (safe_octal _ _) fun _ => safe_pure _
    · exact safe_bind (safe_common _) fun _ => safe_pure _

theorem safe_reference (c : Char) (more : List Char) : Safe n (reference c more) := by
  refine safe_get_bind fun r _ => safe_ite ?_ (safe_refuse _ _)
  refine safe_bind (safe_isClosed _) fun closed => safe_refuse_if ?_
  exact safe_bind (safe_refuseInLookbehind _) fun _ => safe_pure _

theorem safe_digits (c : Char) : Safe n (digits c) := by
  refine safe_bind (safe_spanUpTo _ _) fun second => ?_
  split
  · refine safe_ite ?_ (safe_reference _ _)
    refine safe_bind (safe_spanUpTo _ _) fun third => ?_
    split
    · exact safe_bind (safe_octal _ _) fun _ => safe_pure _
    · exact safe_reference _ _
  · exact safe_reference _ _

theorem safe_outside (c : Char) : Safe n (outside c) := by
  rw [outside]
  split
  · exact safe_pure _
  · exact safe_pure _
  · exact safe_pure _
  · refine safe_ite ?_ (safe_ite (safe_digits _) ?_)
    · exact safe_bind (safe_spanUpTo _ _) fun _ => safe_pure _
    · exact safe_bind (safe_common _) fun _ => safe_pure _

end Escape

namespace Parser

/-! ## Names and flags -/

theorem safe_checkName (name : List Char) (back : Nat) : Safe n (checkName name back) :=
  safe_ite (safe_pure _) (safe_refuse _ _)

theorem safe_refuseFlag {α : Type} (t : Token) (otherwise : Problem) :
    Safe n (refuseFlag t otherwise : Reader α) := safe_refuse _ _

theorem safe_flagsOn {fuel : Nat} (h : n < fuel) (flag : Flag) (before : List Flag) :
    Safe n (flagsOn fuel flag before) := by
  induction fuel generalizing n flag before with
  | zero => exact absurd h (Nat.not_lt_zero n)
  | succ fuel ih =>
      rw [flagsOn]
      refine safe_refuse_if (safe_refuse_if ?_)
      refine safe_next_bind (safe_refuse _ _) fun t m hm => ?_
      refine safe_ite (safe_pure _) (safe_ite (safe_pure _) (safe_ite (safe_pure _) ?_))
      split
      · exact ih (by omega) _ _
      · exact safe_refuseFlag _ _

theorem safe_flagsOff {fuel : Nat} (h : n < fuel) (flag : Flag) (before : List Flag) :
    Safe n (flagsOff fuel flag before) := by
  induction fuel generalizing n flag before with
  | zero => exact absurd h (Nat.not_lt_zero n)
  | succ fuel ih =>
      rw [flagsOff]
      refine safe_refuse_if (safe_next_bind (safe_refuse _ _) fun t m hm => ?_)
      refine safe_ite (safe_pure _) ?_
      split
      · exact ih (by omega) _ _
      · exact safe_refuseFlag _ _

theorem safe_flags (first : Token) : Safe n (flags first) := by
  refine safe_get_bind fun r hr => ?_
  extract_lets fuel settle
  have hsettle : ∀ marked, Safe r.rest.length (settle marked) := by
    rintro ⟨on, mark⟩
    refine safe_ite (safe_bind (safe_modify fun _ => Nat.le_refl _) fun _ => safe_pure _) ?_
    refine safe_refuse_if (safe_ite (safe_pure _) ?_)
    refine safe_next_bind (safe_refuse _ _) fun t m hm => ?_
    dsimp only
    split
    · exact safe_refuseFlag _ _
    · refine safe_bind (safe_flagsOff (by omega) _ _) fun off => ?_
      exact safe_refuse_if (safe_refuse_if (safe_pure _))
  split
  · exact safe_bind (safe_flagsOn (Nat.lt_succ_self _) _ _) hsettle
  · exact safe_bind (safe_pure _) hsettle

/-! ## Sets -/

theorem safe_setMember (t : Token) : Safe n (setMember t) := by
  unfold setMember
  split
  · exact Escape.safe_inSet _
  · exact safe_pure _
  · exact safe_refuse _ _

theorem safe_setRange (low high : SetItem) (this that : Token) :
    Safe n (setRange low high this that) := by
  unfold setRange
  split
  · exact safe_ite (safe_refuse _ _) (safe_pure _)
  · exact safe_refuse _ _

theorem safe_unterminated (start : Nat) : Safe n (setItems.unterminated start) :=
  safe_bind safe_position fun _ => safe_refuse _ _

theorem safe_setItems (start : Nat) {fuel : Nat} (h : n < fuel) (items : List SetItem) :
    Safe n (setItems start fuel items) := by
  induction fuel generalizing n items with
  | zero => exact absurd h (Nat.not_lt_zero n)
  | succ fuel ih =>
      refine safe_next_bind (safe_unterminated start) fun this m hm => ?_
      refine safe_ite (safe_pure _) (safe_bind (safe_setMember this) fun low => ?_)
      refine safe_accept_bind (ih (by omega) _) fun m' hm' => ?_
      refine safe_next_bind (safe_unterminated start) fun that k hk => ?_
      refine safe_ite (safe_pure _) (safe_bind (safe_setMember that) fun high => ?_)
      exact safe_bind (safe_setRange _ _ _ _) fun range => ih (by omega) _

theorem safe_set : Safe n Parser.set := by
  refine safe_bind safe_position fun place => safe_bind (safe_accept _) fun negated => ?_
  refine safe_get_bind fun r hr => ?_
  refine safe_bind (safe_setItems _ (Nat.lt_succ_self _) _) fun items => ?_
  split
  · exact safe_pure _
  · exact safe_pure _

/-! ## Repetition -/

theorem safe_count (digits : List Char) : Safe n (count digits) := by
  unfold count
  exact safe_throw_if (by simp) (safe_throw_if (by simp) (safe_pure _))

/-- Where the brace is only a character, the reading is put back to where it was. -/
theorem safe_braces : Safe n braces := by
  refine safe_get_bind fun saved _ => safe_bind safe_peek fun t? => safe_ite (safe_pure _) ?_
  refine safe_bind (safe_span _) fun low => safe_bind (safe_accept _) fun comma => ?_
  extract_lets close
  have hclose : ∀ high, Safe saved.rest.length (close high) := by
    intro high
    refine safe_bind (safe_accept _) fun closed => safe_ite ?_ ?_
    · exact safe_bind (Reader.safe_set (Nat.le_refl _)) fun _ => safe_pure _
    · extract_lets bounds
      have hbounds : ∀ least, Safe saved.rest.length (bounds least) := by
        intro least
        refine safe_ite (safe_pure _) (safe_bind (safe_count _) fun most => ?_)
        refine safe_ite (safe_bind safe_position fun _ => ?_) (safe_pure _)
        exact safe_bind (safe_refuse _ _) fun _ => safe_pure _
      exact safe_ite (safe_bind (safe_pure _) hbounds) (safe_bind (safe_count _) hbounds)
  exact safe_ite (safe_bind (safe_span _) hclose) (safe_bind (safe_pure _) hclose)

theorem safe_appetite : Safe n appetite := by
  refine safe_bind (safe_accept _) fun lazy => safe_ite (safe_pure _) ?_
  exact safe_bind (safe_accept _) fun possessive => safe_ite (safe_pure _) (safe_pure _)

theorem safe_repeatLast (here : Nat) (bounds : Nat × Option Nat) (items : List Regex) :
    Safe n (repeatLast here bounds items) := by
  refine safe_bind safe_position fun place => ?_
  split
  · exact safe_refuse _ _
  · exact safe_refuse _ _
  · exact safe_refuse _ _
  · exact safe_bind safe_appetite fun _ => safe_pure _

/-! ## Groups -/

theorem safe_comment (start : Nat) {fuel : Nat} (h : n < fuel) : Safe n (comment start fuel) := by
  induction fuel generalizing n with
  | zero => exact absurd h (Nat.not_lt_zero n)
  | succ fuel ih =>
      refine safe_next_bind (safe_bind safe_position fun _ => safe_refuse _ _) fun t m hm => ?_
      exact safe_ite (safe_pure _) (ih (by omega))

theorem safe_namedReference : Safe n namedReference := by
  refine safe_bind (safe_takeUntil _ _) fun name => safe_bind (safe_checkName _ _) fun _ => ?_
  refine safe_get_bind fun r _ => ?_
  split
  · exact safe_refuse _ _
  · refine safe_bind (safe_isClosed _) fun closed => safe_refuse_if ?_
    exact safe_bind (safe_refuseInLookbehind _) fun _ => safe_pure _

theorem safe_conditionGroup : Safe n conditionGroup := by
  refine safe_bind (safe_takeUntil _ _) fun name => ?_
  extract_lets text back refer
  have hrefer : ∀ {m} group, Safe m (refer group) := fun group =>
    safe_bind (safe_refuseInLookbehind group) fun _ => safe_pure _
  refine safe_ite (safe_get_bind fun r hr => ?_) ?_
  · split
    · exact safe_bind (safe_pure _) hrefer
    · exact safe_bind (safe_refuse _ _) hrefer
  · split
    · exact safe_bind (safe_refuse _ _) hrefer
    · refine safe_refuse_if (safe_get_bind fun r hr => ?_)
      have hnumber : ∀ number, Safe r.rest.length (pure number >>= refer) :=
        fun _ => safe_bind (safe_pure _) hrefer
      exact safe_ite (safe_bind (Reader.safe_set (Nat.le_refl _)) fun _ => hnumber _) (hnumber _)
    · exact safe_bind (safe_refuse _ _) hrefer

theorem safe_opening (start : Nat) : Safe n (opening start) := by
  refine safe_bind (safe_accept _) fun extension => safe_ite (safe_pure _) ?_
  refine safe_bind safe_next fun t? => ?_
  split
  · exact safe_refuse _ _
  extract_lets unknown
  have hunknown : ∀ text, Safe n (unknown text) := fun text => safe_refuse _ _
  split
  · refine safe_bind (safe_accept _) fun named => safe_ite ?_ ?_
    · refine safe_bind (safe_takeUntil _ _) fun name => ?_
      exact safe_bind (safe_checkName _ _) fun _ => safe_pure _
    · refine safe_bind (safe_accept _) fun again => safe_ite safe_namedReference ?_
      refine safe_bind safe_next fun u? => ?_
      split
      · exact safe_refuse _ _
      · exact hunknown _
  · exact safe_pure _
  · exact safe_get_bind fun _ _ => safe_comment start (Nat.lt_succ_self _)
  · exact safe_pure _
  · exact safe_pure _
  · refine safe_bind safe_next fun u? => ?_
    split
    · exact safe_refuse _ _
    · exact safe_ite (safe_pure _) (safe_ite (safe_pure _) (hunknown _))
  · exact safe_bind safe_conditionGroup fun _ => safe_pure _
  · exact safe_pure _
  · refine safe_ite (safe_bind (safe_flags _) fun change? => ?_) (hunknown _)
    split
    · exact safe_pure _
    · exact safe_pure _

theorem safe_close (start : Nat) : Safe n (close start) := by
  refine safe_bind (safe_accept _) fun closed => safe_ite ?_ (safe_pure _)
  exact safe_bind safe_position fun _ => safe_refuse _ _

theorem safe_skipLine (fuel : Nat) : Safe n (skipLine fuel) := by
  induction fuel with
  | zero => exact safe_pure _
  | succ fuel ih =>
      refine safe_bind safe_next fun t? => ?_
      split
      · exact safe_pure _
      · exact safe_ite (safe_pure _) ih

theorem safe_nextAlternative (s : Surroundings) : Safe n s.nextAlternative :=
  safe_get_bind fun _ _ => safe_pure _

/-! ## The grammar -/

/-- The fuel that is enough for each reader of the grammar. -/
structure Fueled (fuel : Nat) : Prop where
  sequence : ∀ {n}, 3 * n + 1 ≤ fuel → ∀ s items, Safe n (Parser.sequence fuel s items)
  alternatives : ∀ {n}, 3 * n + 2 ≤ fuel → ∀ s, Safe n (Parser.alternatives fuel s)
  group : ∀ {n}, 3 * n + 3 ≤ fuel → ∀ start s, Safe n (Parser.group fuel start s)

section

variable {fuel : Nat} (fueled : Fueled fuel)

include fueled

theorem safe_alternatives_succ (h : 3 * n + 2 ≤ fuel + 1) (s : Surroundings) :
    Safe n (alternatives (fuel + 1) s) := by
  rw [alternatives]
  refine safe_bind (fueled.sequence (by omega) s []) fun item => ?_
  refine safe_accept_bind (safe_pure _) fun m hm => ?_
  refine safe_bind (safe_nextAlternative s) fun s' => ?_
  exact safe_bind (fueled.alternatives (by omega) s') fun _ => safe_pure _

/-- The round takes its first symbol whatever it is, so what follows has less to read. -/
theorem safe_sequence_succ (h : 3 * n + 1 ≤ fuel + 1) (s : Surroundings) (items : List Regex) :
    Safe n (sequence (fuel + 1) s items) := by
  rw [sequence]
  refine safe_peek_bind (safe_pure _) fun r t rest hr hn => ?_
  dsimp only
  split
  · exact safe_pure _ r (by rw [hr]; exact hn)
  refine ensures_next_bind hr (Nat.le_of_lt hn) ?_
  have on : ∀ s items, Safe rest.length (sequence fuel s items) :=
    fun s items => fueled.sequence (by omega) s items
  split
  · exact safe_refuse _ _
  · exact safe_bind (Escape.safe_outside _) fun _ => on _ _
  refine safe_ite (on _ _) (safe_ite ?_ (safe_bind safe_position fun here => ?_))
  · refine safe_get_bind fun r' hr' => safe_bind (safe_skipLine _) fun _ => ?_
    exact fueled.sequence (by omega) _ _
  split
  · exact safe_bind safe_set fun _ => on _ _
  · exact on _ _
  · exact on _ _
  · exact on _ _
  · exact safe_bind (safe_repeatLast _ _ _) fun _ => on _ _
  · exact safe_bind (safe_repeatLast _ _ _) fun _ => on _ _
  · exact safe_bind (safe_repeatLast _ _ _) fun _ => on _ _
  · refine safe_bind safe_braces fun bounds? => ?_
    split
    · exact on _ _
    · exact safe_bind (safe_repeatLast _ _ _) fun _ => on _ _
  · refine safe_bind (fueled.group (by omega) _ _) fun read => ?_
    split
    · exact on _ _
    · exact on _ _
    · have again : ∀ f : Reading → Surroundings,
          Safe rest.length (get >>= fun r => sequence fuel (f r) items) :=
        fun f => safe_get_bind fun r' hr' => fueled.sequence (by omega) _ _
      refine safe_ite ?_ (again _)
      exact safe_bind safe_position fun _ => safe_bind (safe_refuse _ _) fun _ => again _
  · exact on _ _

/-- Whatever stands behind the parenthesis, the parts of the group are alternatives or branches, and
these have at most as much to read. -/
theorem safe_group_succ (h : 3 * n + 3 ≤ fuel + 1) (start : Nat) (s : Surroundings) :
    Safe n (group (fuel + 1) start s) := by
  rw [group]
  refine safe_bind (safe_opening start) fun what => ?_
  have parts : ∀ {m}, m ≤ n → ∀ s, Safe m (alternatives fuel s) :=
    fun hm s => fueled.alternatives (by omega) s
  have branch : ∀ {m}, m ≤ n → ∀ s, Safe m (sequence fuel s []) :=
    fun hm s => fueled.sequence (by omega) s []
  have whole : ∀ (s : Surroundings) (f : Regex → Regex), Safe n (do
      let body ← alternatives fuel s
      close start
      return .inl (f (.ofAlternatives body)) : Reader (Regex ⊕ Bool)) :=
    fun s f => safe_bind (parts (Nat.le_refl n) s) fun _ => safe_bind (safe_close start) fun _ =>
      safe_pure _
  match what with
  | .nothing globalFlags => exact safe_pure _
  | .item r => exact safe_pure _
  | .capturing name =>
      refine safe_bind (safe_openGroup name) fun number => ?_
      refine safe_bind (parts (Nat.le_refl n) _) fun body => safe_bind (safe_close start) fun _ => ?_
      exact safe_bind (safe_closeGroup _ _) fun _ => safe_pure _
  | .scoped change => exact whole _ _
  | .atomic => exact whole _ _
  | .assertion false negated => exact whole _ _
  | .assertion true negated =>
      refine safe_get_bind fun r hr => safe_bind (safe_modify fun _ => Nat.le_refl _) fun _ => ?_
      refine safe_bind (parts hr _) fun body => ?_
      refine safe_bind (safe_modify fun _ => Nat.le_refl _) fun _ => ?_
      exact safe_bind (safe_close start) fun _ => safe_get_bind fun _ _ => safe_pure _
  | .condition number =>
      refine safe_bind (branch (Nat.le_refl n) _) fun yes => safe_bind (safe_accept _) fun more => ?_
      extract_lets finish
      have hfinish : ∀ no, Safe n (finish no) :=
        fun no => safe_bind (safe_close start) fun _ => safe_pure _
      refine safe_ite ?_ (safe_bind (safe_pure _) hfinish)
      refine safe_bind (branch (Nat.le_refl n) _) fun no => safe_bind safe_peek fun t? => ?_
      exact safe_refuse_if (safe_bind (safe_pure _) hfinish)

end

/-- The amounts of fuel are enough: every call lowers the fuel by one, and there is a symbol less to
read before it has been lowered by three. -/
theorem fueled (fuel : Nat) : Fueled fuel := by
  induction fuel with
  | zero => constructor <;> omega
  | succ fuel ih =>
      exact ⟨safe_sequence_succ ih, safe_alternatives_succ ih, safe_group_succ ih⟩

/-! ## Whole patterns -/

theorem safe_finish : Safe n finish := by
  refine safe_get_bind fun r _ => safe_throw_if (by simp) (safe_refuse_if ?_)
  split
  · exact safe_throw nofun
  · exact safe_pure _

theorem safe_whole : Safe n whole := by
  refine safe_bind safe_refuseDangling fun _ => safe_get_bind fun r _ => ?_
  refine safe_bind ((fueled _).alternatives (by omega) _) fun all => ?_
  exact safe_bind safe_finish fun _ => safe_pure _

end Parser

theorem Expression.parse_ne_tooDeep (text : List Char) : Expression.parse text ≠ .error .tooDeep := by
  intro h
  have hwhole := Parser.safe_whole (Parser.start text) (Nat.le_refl _)
  rw [Ensures] at hwhole
  rw [Expression.parse] at h
  match hrun : Parser.whole.run (Parser.start text) with
  | .ok (regex, reading) =>
      rw [hrun] at h
      cases h
  | .error e =>
      rw [hrun] at h hwhole
      cases h
      exact hwhole rfl

/-- Without regard to the stack no text is nested too deep. -/
theorem compile_ne_tooDeep (text : String) : compile text ≠ .error .tooDeep := by
  intro h
  rw [compile] at h
  match hparse : Expression.parse text.toList with
  | .ok e =>
      simp only [hparse, ok_bind] at h
      split at h <;> cases h
  | .error e =>
      rw [hparse] at h
      cases h
      exact Expression.parse_ne_tooDeep _ hparse

end ChainLint.Pattern
