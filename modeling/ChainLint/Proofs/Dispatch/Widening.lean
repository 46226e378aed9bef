import ChainLint.Proofs.Dispatch.Independence

/-!
# Settings act in one direction

Settings are asked at every layer of a chain. A vocabulary is within another if it has the same aliases,
no variable that the other has not, and every reason of the other for which a method leaves the
collection (`Vocabulary.Within`). The classifier asks for nothing else, and a reason only ever ends a
chain. So what is a collection in the narrower vocabulary is one in the wider, and what rules report for
the narrower they report for the wider.

The settings of a run come in here through three cases. A pattern that matches more widens. An entry for
a method that is known adds a reason to those of the method, and narrows. An entry for a method that is
not known takes the place of the one reason that holds of unknown methods with any arguments, and widens;
the kind `never` is this reason again.
-/

namespace ChainLint

open Settings

namespace Vocabulary

variable {v w : Vocabulary}

/-! ## Narrower and wider vocabularies -/

structure Within (v w : Vocabulary) : Prop where
  isAlias : v.isAlias = w.isAlias
  isVariable : ∀ name, v.isVariable name = true → w.isVariable name = true
  leaves : ∀ method arguments, w.Leaves method arguments → v.Leaves method arguments

theorem Within.returnsOther (h : v.Within w) {callee : Option Node} {arguments : List Node}
    (hother : w.returnsOther callee arguments = true) : v.returnsOther callee arguments = true := by
  rw [returnsOther_iff] at hother ⊢
  cases hother with
  | undetermined hname => exact .undetermined hname
  | utility halias => exact .utility (h.isAlias ▸ halias)
  | leaves hm hleaves => exact .leaves hm (h.leaves _ _ hleaves)

/-- Peeling goes as far in the wider vocabulary, and further where the narrower one ends the chain. -/
theorem Within.peel (h : v.Within w) (p : Parents) {n : Node} (hn : v.peel p n = .ok true) :
    w.peel p n = .ok true := by
  induction n using Node.induct with
  | step n ih =>
      cases n with
      | identifier site name =>
          unfold Vocabulary.peel at hn ⊢
          rw [← h.isAlias]
          split_ifs at hn ⊢
          · exact hn
          · rcases Bool.or_eq_true_iff.mp (Except.ok.inj hn) with hvariable | halias
            · rw [h.isVariable name hvariable, Bool.true_or]
            · rw [halias, Bool.or_true]
      | literal site value =>
          rw [Vocabulary.peel] at hn
          cases hn
      | other site kind nodes =>
          rw [Vocabulary.peel] at hn
          cases hn
      | member site object property computed =>
          rw [peel_member] at hn ⊢
          split_ifs at hn ⊢
          · exact ih object (List.mem_cons_self ..) hn
          · cases hname : (Node.member site object property computed).propertyName? with
            | none =>
                rw [hname] at hn
                exact hn
            | some name =>
                rw [hname, Option.any_some] at hn
                rw [Option.any_some, h.isVariable name (Except.ok.inj hn)]
      | call site callee arguments =>
          rw [Vocabulary.peel] at hn ⊢
          split_ifs at hn with hother
          · cases hn
          · rw [if_neg fun hother' => hother (h.returnsOther hother')]
            cases callee with
            | none => exact hn
            | some callee => exact ih callee (List.mem_cons_self ..) hn

theorem Within.classify (h : v.Within w) (p : Parents) {origin : Origin} {n : Node}
    (hn : v.classify p origin (some n) = .ok true) : w.classify p origin (some n) = .ok true := by
  cases origin with
  | collection => exact h.peel p hn
  | utility =>
      simp only [Vocabulary.classify, ← isConstructor_eq h.isAlias] at hn ⊢
      exact hn
  | either =>
      simp only [Vocabulary.classify, ← isConstructor_eq h.isAlias] at hn ⊢
      split_ifs at hn ⊢
      · rfl
      · exact h.peel p hn

/-- Vocabularies that are within each other cannot be told apart, not even by a chain that breaks off. -/
theorem Within.peel_eq (h : v.Within w) (h' : w.Within v) (p : Parents) (n : Node) :
    v.peel p n = w.peel p n := by
  have hvariable : v.isVariable = w.isVariable := by
    funext name
    exact Bool.eq_iff_iff.mpr ⟨h.isVariable name, h'.isVariable name⟩
  have hother : ∀ callee arguments, v.returnsOther callee arguments = w.returnsOther callee arguments := by
    intro callee arguments
    exact Bool.eq_iff_iff.mpr ⟨h'.returnsOther, h.returnsOther⟩
  induction n using Node.induct with
  | step n ih =>
      cases n with
      | identifier site name => rw [Vocabulary.peel, Vocabulary.peel, h.isAlias, hvariable]
      | literal site value => rw [Vocabulary.peel, Vocabulary.peel]
      | other site kind nodes => rw [Vocabulary.peel, Vocabulary.peel]
      | member site object property computed =>
          rw [peel_member, peel_member, hvariable, ih object (List.mem_cons_self ..)]
      | call site callee arguments =>
          rw [Vocabulary.peel, Vocabulary.peel, hother]
          cases callee with
          | none => rw [peelOption, peelOption]
          | some callee => rw [peelOption, peelOption, ih callee (List.mem_cons_self ..)]

theorem Within.classify_eq (h : v.Within w) (h' : w.Within v) (p : Parents) (origin : Origin)
    (n : Option Node) : v.classify p origin n = w.classify p origin n := by
  have hpeel : v.peelOption p n = w.peelOption p n := by
    cases n with
    | none => rw [peelOption, peelOption]
    | some n => rw [peelOption, peelOption, h.peel_eq h']
  cases origin with
  | collection => exact hpeel
  | utility => simp only [Vocabulary.classify, isConstructor_eq h.isAlias]
  | either => simp only [Vocabulary.classify, isConstructor_eq h.isAlias, hpeel]

/-! ## Entries for plugin methods -/

/-- The vocabulary with an entry for a method. -/
def withPlugin (v : Vocabulary) (method : String) (kind : PluginKind) : Vocabulary :=
  { v with plugin? := fun m => if m = method then some kind else v.plugin? m }

theorem plugin?_withPlugin_self (v : Vocabulary) (method : String) (kind : PluginKind) :
    (v.withPlugin method kind).plugin? method = some kind := if_pos rfl

theorem plugin?_withPlugin_of_ne (v : Vocabulary) {m method : String} (kind : PluginKind)
    (h : m ≠ method) : (v.withPlugin method kind).plugin? m = v.plugin? m := if_neg h

/-- The reasons stay if the entries do, and those that are missing stay missing where it matters. -/
theorem Leaves.mono {method : String} {arguments : List Node} (h : v.Leaves method arguments)
    (hentry : ∀ kind, v.plugin? method = some kind → w.plugin? method = some kind)
    (hunknown : method ∉ Methods.known → v.plugin? method = none → w.plugin? method = none) :
    w.Leaves method arguments := by
  cases h with
  | never h => exact .never (h.imp_right (hentry _))
  | accessor h => exact .accessor (h.imp_right (hentry _))
  | valueAccessor h => exact .valueAccessor (h.imp_right (hentry _))
  | valueAccessorKey h ha => exact .valueAccessorKey (h.imp_right (hentry _)) ha
  | sizing h => exact .sizing h
  | sizingFlag h ha hf => exact .sizingFlag h ha hf
  | queue h => exact .queue h
  | queueName h ha => exact .queueName h ha
  | unknown h hp => exact .unknown h (hunknown h hp)

theorem Leaves.congr {method : String} {arguments : List Node} (h : v.Leaves method arguments)
    (hplugin : v.plugin? method = w.plugin? method) : w.Leaves method arguments := by
  refine h.mono (fun kind hkind => ?_) (fun _ hnone => ?_)
  · rw [← hplugin, hkind]
  · rw [← hplugin, hnone]

variable {method : String} {kind : PluginKind} (hnew : v.plugin? method = none)

include hnew

/-- An entry for a known method adds a reason. -/
theorem withPlugin_within_of_known (hknown : method ∈ Methods.known) :
    (v.withPlugin method kind).Within v := by
  refine ⟨rfl, fun _ => id, fun m arguments h => ?_⟩
  by_cases hm : m = method
  · subst hm
    refine h.mono (fun kind' hkind' => ?_) (fun hunknown _ => absurd hknown hunknown)
    rw [hnew] at hkind'
    cases hkind'
  · exact h.congr (v.plugin?_withPlugin_of_ne kind hm).symm

/-- An entry for an unknown method can only take reasons away, for without it there is one for any
arguments. -/
theorem within_withPlugin_of_unknown (hunknown : method ∉ Methods.known) :
    v.Within (v.withPlugin method kind) := by
  refine ⟨rfl, fun _ => id, fun m arguments h => ?_⟩
  by_cases hm : m = method
  · subst hm
    exact .unknown hunknown hnew
  · exact h.congr (v.plugin?_withPlugin_of_ne kind hm)

omit hnew in
theorem withPlugin_never_within (v : Vocabulary) (method : String) :
    (v.withPlugin method .never).Within v := by
  refine ⟨rfl, fun _ => id, fun m arguments h => ?_⟩
  by_cases hm : m = method
  · subst hm
    exact .never (.inr (v.plugin?_withPlugin_self m .never))
  · exact h.congr (v.plugin?_withPlugin_of_ne .never hm).symm

end Vocabulary

namespace Settings

/-- The settings with an entry for a plugin method. -/
def addPlugin (s : Settings) (method : String) (kind : PluginKind) : Settings :=
  { s with plugins := putPlugin method kind s.plugins }

theorem find?_putPlugin (method : String) (kind : PluginKind) (m : String)
    (plugins : List (String × PluginKind)) :
    ((putPlugin method kind plugins).find? (·.1 == m)).map (·.2) =
      if m = method then some kind else (plugins.find? (·.1 == m)).map (·.2) := by
  induction plugins with
  | nil =>
      by_cases hm : m = method
      · simp [putPlugin, hm]
      · simp [putPlugin, hm, Ne.symm hm]
  | cons entry plugins ih =>
      obtain ⟨other, kind'⟩ := entry
      by_cases hother : other = method
      · subst hother
        by_cases hm : m = other
        · simp [putPlugin, hm]
        · simp [putPlugin, hm, Ne.symm hm]
      · rw [putPlugin, if_neg hother, List.find?_cons, List.find?_cons]
        by_cases hm : other = m
        · subst hm
          simp [hother]
        · have hfalse : (other == m) = false := beq_false_of_ne hm
          rw [hfalse]
          exact ih

theorem vocabulary_addPlugin (s : Settings) (method : String) (kind : PluginKind) :
    (s.addPlugin method kind).vocabulary = s.vocabulary.withPlugin method kind := by
  simp only [vocabulary, addPlugin, Vocabulary.withPlugin, Vocabulary.mk.injEq, true_and]
  funext m
  exact find?_putPlugin method kind m s.plugins

end Settings

/-! ## What rules report -/

namespace Dispatch

variable {v w : Vocabulary} {root : Node} {rules : List (String × Rule)} {options : OptionsTable}

theorem reported_subset (h : v.Within w) (made : ∀ r ∈ rules, r.2.Made) {ds es : List Diagnostic}
    (hds : reported v root rules options = .ok ds) (hes : reported w root rules options = .ok es) :
    ds ⊆ es := by
  intro d hd
  obtain ⟨r, hr, handler, hhandler, step, hstep, hselector, hfinds⟩ := (mem_reported_iff hds).mp hd
  have alike : (contextOf v (.ofRoot root) options r.1).Alike
      (contextOf w (.ofRoot root) options r.1) := ⟨rfl, fun _ => rfl, rfl, h.isAlias⟩
  obtain ⟨selector, handle, handle', hvisitor, hvisitor', hboth⟩ := (made r hr).handle_both alike
  rw [hvisitor] at hhandler
  obtain rfl := List.mem_singleton.mp hhandler
  have hfinds' := (hboth step.node rfl).mono (fun origin m => h.classify (.ofRoot root)) hfinds
  refine (mem_reported_iff hes).mpr ⟨r, hr, ⟨selector, handle'⟩, ?_, step, hstep, hselector, hfinds'⟩
  rw [hvisitor']
  exact List.mem_singleton.mpr rfl

theorem reported_congr (h : v.Within w) (h' : w.Within v) (made : ∀ r ∈ rules, r.2.Made) :
    reported v root rules options = reported w root rules options := by
  have alike : ∀ r ∈ rules, (contextOf v (.ofRoot root) options r.1).Alike
      (contextOf w (.ofRoot root) options r.1) := fun r _ => ⟨rfl, fun _ => rfl, rfl, h.isAlias⟩
  rw [reported_eq, reported_eq, onWalk_congr v (.ofRoot root) options made alike fun step _ =>
    ⟨rfl, fun origin m _ => h.classify_eq h' _ origin _⟩]

/-- What is a collection for the first vocabulary is one for the second, and what rules report for the
first they report for the second. Both classify every node of the tree, and report. -/
structure Widens (root : Node) (v w : Vocabulary) : Prop where
  classified : ∀ n ∈ root.nodes, ∀ origin, ∃ found found',
    v.classify (.ofRoot root) origin (some n) = .ok found ∧
      w.classify (.ofRoot root) origin (some n) = .ok found' ∧ (found = true → found' = true)
  reported : ∀ rules : List (String × Rule), (∀ r ∈ rules, r.2.Made) → ∀ options, ∃ ds es,
    reported v root rules options = .ok ds ∧ reported w root rules options = .ok es ∧ ds ⊆ es

theorem widens_of_within (complete : root.Complete) (h : v.Within w) : Widens root v w := by
  constructor
  · intro n hn origin
    obtain ⟨found, hfound⟩ := v.classify_answers (.ofRoot root) origin (complete.of_mem hn)
    obtain ⟨found', hfound'⟩ := w.classify_answers (.ofRoot root) origin (complete.of_mem hn)
    refine ⟨found, found', hfound, hfound', ?_⟩
    rintro rfl
    exact Except.ok.inj (hfound'.symm.trans (h.classify _ hfound))
  · intro rules made options
    obtain ⟨ds, hds⟩ := exists_reported v options made complete
    obtain ⟨es, hes⟩ := exists_reported w options made complete
    exact ⟨ds, es, hds, hes, reported_subset h made hds hes⟩

/-! ## The settings of a run -/

/-- **Settings act in one direction.** A pattern that matches more variables widens. A new entry for a
method that is known narrows. A new entry for a method that is not known widens, and if it is `never` it
changes nothing. -/
theorem settings_monotone {root : Node} (complete : root.Complete) (s : Settings) :
    (∀ pattern : Pattern, (∀ name, s.pattern.search name = true → pattern.search name = true) →
      Widens root s.vocabulary { s with pattern }.vocabulary) ∧
    (∀ method kind, method ∈ Methods.known → s.vocabulary.plugin? method = none →
      Widens root (s.addPlugin method kind).vocabulary s.vocabulary) ∧
    (∀ method kind, method ∉ Methods.known → s.vocabulary.plugin? method = none →
      Widens root s.vocabulary (s.addPlugin method kind).vocabulary) ∧
    ∀ method, method ∉ Methods.known → s.vocabulary.plugin? method = none →
      (∀ origin n, (s.addPlugin method .never).vocabulary.classify (.ofRoot root) origin n =
        s.vocabulary.classify (.ofRoot root) origin n) ∧
      ∀ rules : List (String × Rule), (∀ r ∈ rules, r.2.Made) → ∀ options,
        reported (s.addPlugin method .never).vocabulary root rules options =
          reported s.vocabulary root rules options := by
  refine ⟨fun pattern hpattern => ?_, fun method kind hknown hnew => ?_,
    fun method kind hunknown hnew => ?_, fun method hunknown hnew => ?_⟩
  · exact widens_of_within complete ⟨rfl, hpattern, fun _ _ h => h.congr rfl⟩
  · rw [vocabulary_addPlugin]
    exact widens_of_within complete (Vocabulary.withPlugin_within_of_known hnew hknown)
  · rw [vocabulary_addPlugin]
    exact widens_of_within complete (Vocabulary.within_withPlugin_of_unknown hnew hunknown)
  · rw [vocabulary_addPlugin]
    have hout := s.vocabulary.withPlugin_never_within method
    have hin : s.vocabulary.Within (s.vocabulary.withPlugin method .never) :=
      Vocabulary.within_withPlugin_of_unknown hnew hunknown
    exact ⟨hout.classify_eq hin _, fun rules made options => reported_congr hout hin made⟩

/-- A pattern that every variable matches. -/
def anything : Pattern := .ofExpression "" ⟨.empty, [], 0⟩

theorem search_anything (name : String) : anything.search name = true := by
  refine List.any_eq_true.mpr ⟨0, ?_, rfl⟩
  exact List.mem_range.mpr (Nat.zero_lt_succ _)

/-- The call `$x.dialog(0).bind()`, in which `dialog` is a method of a plugin. -/
def dialogChain : Node :=
  .call (.ofId 0)
    (some (.member (.ofId 1)
      (.call (.ofId 2)
        (some (.member (.ofId 3) (.identifier (.ofId 4) "$x") (.identifier (.ofId 5) "dialog") false))
        [.literal (.ofId 6) (.integer 0)])
      (.identifier (.ofId 7) "bind") false))
    []

theorem widens_dialogChain :
    dialogChain.Complete ∧
      Widens dialogChain Settings.standard.vocabulary
        { Settings.standard with pattern := anything }.vocabulary ∧
      Widens dialogChain (Settings.standard.addPlugin "html" .never).vocabulary
        Settings.standard.vocabulary ∧
      Widens dialogChain Settings.standard.vocabulary
        (Settings.standard.addPlugin "dialog" .accessor).vocabulary ∧
      Settings.standard.vocabulary.chain dialogChain false = false ∧
      (Settings.standard.addPlugin "dialog" .accessor).vocabulary.chain dialogChain false = true ∧
      reported (Settings.standard.addPlugin "dialog" .never).vocabulary dialogChain Catalog.rules
          (fun _ => []) =
        reported Settings.standard.vocabulary dialogChain Catalog.rules (fun _ => []) := by
  have complete : dialogChain.Complete := by
    intro site arguments
    simp [dialogChain, Node.nodes_eq, Node.children]
  obtain ⟨hpattern, hknown, hunknown, hnever⟩ := settings_monotone complete Settings.standard
  refine ⟨complete, ?_, ?_, ?_, ?_, ?_, ?_⟩
  · exact hpattern anything fun name _ => search_anything name
  · exact hknown "html" .never (by decide) rfl
  · exact hunknown "dialog" .accessor (by decide) rfl
  · decide +kernel
  · decide +kernel
  · exact (hnever "dialog" (by decide) rfl).2 Catalog.rules Catalog.rules_made _

end Dispatch

end ChainLint
