import ChainLint.Proofs.Concrete.Success
import ChainLint.Proofs.Config.Complaints
import ChainLint.Proofs.Lint.Answers

/-!
# A rule answers to its own entry

The rules table of a configuration has one entry for a rule, `Table.rule?`: keys count as they are written
out, and of keys that are written alike the last one counts. What is read from the table for a rule is
what this entry says (`rel_find?`). So the entry decides whether the rule runs (`selects_iff`), and with
which options; and since rules do not influence each other, what a linter reports under the name of the
rule is the same for all tables that agree about it, whatever else they say.

How far two tables have to agree is seen from the rules: they read two of the options, and tell values
apart only as texts and as void or not (`Value.Alike`).
-/

namespace ChainLint

open Config

namespace Config

/-- The value of the last key that is written like the name. -/
def Table.last? (entries : Table) (name : String) : Option Value :=
  ((entries.filter (·.1.plain == name)).getLast?).map (·.2)

theorem Table.last?_cons (key : Key) (value : Value) (entries : Table) (name : String) :
    Table.last? ((key, value) :: entries) name =
      (Table.last? entries name).or (if key.plain = name then some value else none) := by
  rw [last?, last?, List.filter_cons]
  by_cases h : key.plain = name
  · rw [if_pos (by simpa using h), List.getLast?_cons, if_pos h]
    cases (entries.filter (·.1.plain == name)).getLast? <;> rfl
  · rw [if_neg (by simpa using h), if_neg h, Option.or_none]

/-- What a configuration says about a rule in its rules table. -/
def Table.rule? (config : Table) (name : String) : Option Value :=
  match config.find? "rules" with
  | some (.table entries) => Table.last? entries name
  | _ => none

/-- No rule tells the values apart: they are the same text or no texts, and both void or not. -/
structure Value.Alike (v v' : Value) : Prop where
  text : ∀ s, v = .text s ↔ v' = .text s
  void : v.isVoid = v'.isVoid

theorem Value.Alike.rel_refl (v? : Option Value) : Option.Rel Value.Alike v? v? := by
  cases v? with
  | none => exact .none
  | some v => exact .some ⟨fun _ => Iff.rfl, rfl⟩

/-- Two entries for a rule that are equal, or tables of options of which rules read the same. -/
inductive SameEntry : Value → Value → Prop
  | refl (v : Value) : SameEntry v v
  | options {t t' : Table} (h : ∀ key, Option.Rel Value.Alike (t.find? key) (t'.find? key)) :
      SameEntry (.table t) (.table t')

end Config

/-! ## Reading the rules table -/

namespace Configuration

/-- What is read from an entry. -/
inductive Reads : Value → RuleEntry → Prop
  | switch (on : Bool) : Reads (.boolean on) (.switch on)
  | options (table : Table) : Reads (.table table) (.options table)

/-- What the entries that have been read say about a rule. -/
def entryIn (rules : List (String × RuleEntry)) (name : String) : Option RuleEntry :=
  (rules.find? (·.1 == name)).map (·.2)

theorem entryIn_cons (rule name : String) (entry : RuleEntry) (rules : List (String × RuleEntry)) :
    entryIn ((rule, entry) :: rules) name = if rule = name then some entry else entryIn rules name := by
  by_cases h : rule = name <;> simp [entryIn, h]

theorem entryIn_putRule (rule name : String) (entry : RuleEntry) (rules : List (String × RuleEntry)) :
    entryIn (putRule rule entry rules) name = if rule = name then some entry else entryIn rules name := by
  induction rules with
  | nil => exact entryIn_cons rule name entry []
  | cons first rules ih =>
      obtain ⟨r, e⟩ := first
      rw [putRule]
      by_cases hr : r = rule
      · subst hr
        rw [if_pos rfl, entryIn_cons, entryIn_cons]
        split <;> rfl
      · rw [if_neg hr, entryIn_cons, ih, entryIn_cons]
        by_cases hname : rule = name
        · rw [if_pos hname, if_pos hname, if_neg (hname ▸ hr)]
        · rw [if_neg hname, if_neg hname]

/-- Later entries replace earlier ones, and a rule without an entry keeps what was known. -/
theorem readRules_cases {rules rules' : List (String × RuleEntry)} {entries : Table}
    (h : readRules rules entries = .ok rules') (name : String) :
    (∃ value entry, entries.last? name = some value ∧ Reads value entry ∧
      entryIn rules' name = some entry) ∨
    (entries.last? name = none ∧ entryIn rules' name = entryIn rules name) := by
  induction entries generalizing rules with
  | nil =>
      obtain rfl := Except.ok.inj h
      exact .inr ⟨rfl, rfl⟩
  | cons first entries ih =>
      obtain ⟨key, value⟩ := first
      -- The entry in front is read, and the others are read behind it.
      obtain ⟨entry, hreads, hrest⟩ : ∃ entry, Reads value entry ∧
          readRules (putRule key.plain entry rules) entries = .ok rules' := by
        rw [readRules] at h
        split at h
        case isTrue =>
          cases value with
          | boolean on => exact ⟨_, .switch on, h⟩
          | table options => exact ⟨_, .options options, h⟩
          | null | integer | real | text | list => cases h
        case isFalse => cases h
      rw [Table.last?_cons]
      rcases ih hrest with ⟨later, read, hlast, hlater, hentry⟩ | ⟨hlast, hentry⟩
      · rw [hlast]
        exact .inl ⟨later, read, rfl, hlater, hentry⟩
      · rw [hlast, Option.none_or]
        rw [entryIn_putRule] at hentry
        by_cases hkey : key.plain = name
        · rw [if_pos hkey] at hentry ⊢
          exact .inl ⟨value, entry, rfl, hreads, hentry⟩
        · rw [if_neg hkey] at hentry ⊢
          exact .inr ⟨rfl, hentry⟩

variable {stack stack' : Stack} {config config' : Table} {c c' : Configuration} {name : String}
  (accepted : (Configuration.ofValue stack (.table config)).result = .ok c)
  (accepted' : (Configuration.ofValue stack' (.table config')).result = .ok c')

include accepted

theorem rel_find? (name : String) : Option.Rel Reads (config.rule? name) (c.find? name) := by
  rw [ofValue_result] at accepted
  obtain ⟨settings, -, hrest⟩ := exists_of_bind_eq_ok accepted
  obtain ⟨rules, hrules, h⟩ := exists_of_bind_eq_ok hrest
  obtain rfl := Except.ok.inj h
  show Option.Rel Reads (config.rule? name) (entryIn rules name)
  rw [Table.rule?]
  rw [rulesOf] at hrules
  match hfind : config.find? "rules" with
  | none =>
      rw [hfind] at hrules
      obtain rfl := Except.ok.inj hrules
      exact .none
  | some (.table entries) =>
      rw [hfind] at hrules
      rcases readRules_cases hrules name with ⟨value, entry, hlast, hreads, hentry⟩ | ⟨hlast, hentry⟩
      · simp only [hlast, hentry]
        exact .some hreads
      · simp only [hlast, hentry]
        exact .none
  | some .null | some (.boolean _) | some (.integer _) | some (.real _) | some (.text _)
  | some (.list _) =>
      rw [hfind] at hrules
      cases hrules

/-! ## What the entry decides -/

theorem selects_iff (rule : Rule) :
    Linter.selects c name rule = true ↔
      config.rule? name ≠ some (.boolean false) ∧
        (rule.info.deprecation.isDeprecated = true → config.rule? name ≠ none) := by
  have hnamed : c.ruleNames.contains name = true ↔ (c.find? name).isSome = true := by
    rw [ruleNames, List.contains_iff_mem, find?, Option.isSome_map, List.find?_isSome]
    simp
  have hrel := rel_find? accepted name
  rw [Linter.selects, Bool.and_eq_true, Bool.or_eq_true, hnamed, isEnabled]
  generalize config.rule? name = value at hrel
  generalize c.find? name = entry at hrel
  cases hrel with
  | none => simp
  | some hreads =>
      cases hreads with
      | switch on => cases on <;> simp
      | options table => simp

theorem option?_eq (v : Vocabulary) (p : Parents) (key : String) :
    (Dispatch.contextOf v p c.optionsFor name).option? key =
      match config.rule? name with
      | some (.table table) => Table.find? table key
      | _ => none := by
  have hrel := rel_find? accepted name
  have hoptions : (Dispatch.contextOf v p c.optionsFor name).options = c.optionsFor name := rfl
  rw [Context.option?, hoptions, optionsFor]
  generalize config.rule? name = value at hrel
  generalize c.find? name = entry at hrel
  cases hrel with
  | none => rfl
  | some hreads => cases hreads <;> rfl

end Configuration

/-! ## What rules read of their options -/

section

variable {c c' : Context}

theorem Rule.allows_eq_of_rel
    (h : Option.Rel Value.Alike (c.option? allowKey) (c'.option? allowKey)) (call : Node) :
    allows c call = allows c' call := by
  have same : ∀ s, c.option? allowKey = some (.text s) ↔ c'.option? allowKey = some (.text s) := by
    intro s
    generalize c.option? allowKey = x at h
    generalize c'.option? allowKey = y at h
    cases h with
    | none => rfl
    | some halike => rw [Option.some.injEq, Option.some.injEq, halike.text s]
  by_cases hget : c.option? allowKey = some (.text "get")
  · rw [allows, hget, allows, (same _).mp hget]
  · by_cases hset : c.option? allowKey = some (.text "set")
    · rw [allows, hset, allows, (same _).mp hset]
    · rw [allows_of_ne hget hset,
        allows_of_ne (fun h' => hget ((same _).mpr h')) fun h' => hset ((same _).mpr h')]

theorem Catalog.allowsScroll_eq_of_rel
    (h : Option.Rel Value.Alike (c.option? scrollKey) (c'.option? scrollKey)) :
    allowsScroll c = allowsScroll c' := by
  rw [allowsScroll, allowsScroll]
  generalize c.option? scrollKey = x at h
  generalize c'.option? scrollKey = y at h
  cases h with
  | none => rfl
  | some halike => exact congrArg not halike.void

end

/-! ## Two configurations that agree about a rule -/

namespace Linter

variable {stack stack' : Stack} {config config' : Table} {c c' : Configuration} {name : String}
  (accepted : (Configuration.ofValue stack (.table config)).result = .ok c)
  (accepted' : (Configuration.ofValue stack' (.table config')).result = .ok c')
  (same : Option.Rel SameEntry (config.rule? name) (config'.rule? name))

include accepted accepted' same

theorem selects_eq_of_same (rule : Rule) : selects c name rule = selects c' name rule := by
  rw [Bool.eq_iff_iff, Configuration.selects_iff accepted, Configuration.selects_iff accepted']
  generalize config.rule? name = value at same
  generalize config'.rule? name = value' at same
  cases same with
  | none => rfl
  | some h => cases h <;> simp

theorem alike_of_same (v : Vocabulary) (p : Parents) :
    (Dispatch.contextOf v p c.optionsFor name).Alike (Dispatch.contextOf v p c'.optionsFor name) := by
  have hoption : ∀ key, Option.Rel Value.Alike
      ((Dispatch.contextOf v p c.optionsFor name).option? key)
      ((Dispatch.contextOf v p c'.optionsFor name).option? key) := by
    intro key
    rw [Configuration.option?_eq accepted, Configuration.option?_eq accepted']
    generalize config.rule? name = value at same
    generalize config'.rule? name = value' at same
    cases same with
    | none => exact .none
    | some h =>
        cases h with
        | options halike => exact halike key
        | refl value => exact Value.Alike.rel_refl _
  exact ⟨rfl, Rule.allows_eq_of_rel (hoption _), Catalog.allowsScroll_eq_of_rel (hoption _), rfl⟩

variable {rules : List (String × Rule)}

theorem filter_selected_eq :
    (rules.filter fun r => selects c r.1 r.2).filter (·.1 == name) =
      (rules.filter fun r => selects c' r.1 r.2).filter (·.1 == name) := by
  rw [List.filter_filter, List.filter_filter]
  refine List.filter_congr fun r _ => ?_
  by_cases h : r.1 = name
  · rw [h, selects_eq_of_same accepted accepted' same]
  · rw [beq_false_of_ne h, Bool.false_and, Bool.false_and]

/-- What is reported under the name of the rule is the same. -/
theorem filter_reported_eq (made : ∀ r ∈ rules, r.2.Made)
    (vocabulary : c.settings.vocabulary = c'.settings.vocabulary) {root : Node}
    {ds ds' : List Diagnostic}
    (hds : Dispatch.reported c.settings.vocabulary root (rules.filter fun r => selects c r.1 r.2)
      c.optionsFor = .ok ds)
    (hds' : Dispatch.reported c'.settings.vocabulary root (rules.filter fun r => selects c' r.1 r.2)
      c'.optionsFor = .ok ds') :
    ds.filter (·.ruleId == name) = ds'.filter (·.ruleId == name) := by
  have hmade : ∀ c : Configuration, ∀ r ∈ rules.filter fun r => selects c r.1 r.2, r.2.Made :=
    fun _ r hr => made r (List.mem_of_mem_filter hr)
  have hone := Dispatch.filter_reported_name (hmade c) name hds
  have hother := Dispatch.filter_reported_name (hmade c') name hds'
  rw [← filter_selected_eq accepted accepted' same, ← vocabulary] at hother
  -- The rules of this name are the same on both sides, and read the same options.
  generalize hnamed : (rules.filter fun r => selects c r.1 r.2).filter (·.1 == name) = named
    at hone hother
  have hmem : ∀ r ∈ named, r.2.Made ∧ r.1 = name := by
    intro r hr
    rw [← hnamed, List.mem_filter] at hr
    exact ⟨hmade c r hr.1, beq_iff_eq.mp hr.2⟩
  have halike : ∀ r ∈ named,
      (Dispatch.contextOf c.settings.vocabulary (.ofRoot root) c.optionsFor r.1).Alike
        (Dispatch.contextOf c.settings.vocabulary (.ofRoot root) c'.optionsFor r.1) := by
    intro r hr
    rw [(hmem r hr).2]
    exact alike_of_same accepted accepted' same _ _
  rw [Dispatch.reported_eq, Dispatch.onWalk_congr _ _ _ (fun r hr => (hmem r hr).1) halike
    fun _ _ => ⟨rfl, fun _ _ _ => rfl⟩, ← Dispatch.reported_eq, hother] at hone
  exact (Except.ok.inj hone).symm

end Linter

theorem Linter.ofConfiguration_value (c : Configuration) (rules : List (String × Rule)) :
    (ofConfiguration c rules).value = ⟨c, rules.filter fun r => selects c r.1 r.2⟩ := by
  dsimp only [ofConfiguration]
  split <;> rfl

section

variable {rules : List (String × Rule)} (made : ∀ r ∈ rules, r.2.Made) {s : Script} {root : Node}
  (parses : s.program?.result = .ok (some root)) (path : String)

include made parses

/-- Linting a script that has a program gives what the selected rules report of it. -/
theorem Linter.lintScript_eq_reported (c : Configuration) :
    ∃ ds, ((ofConfiguration c rules).value.lintScript path s).result = .ok ⟨path, some ds⟩ ∧
      Dispatch.reported c.settings.vocabulary root (rules.filter fun r => selects c r.1 r.2)
        c.optionsFor = .ok ds := by
  have hmade : ∀ r ∈ (ofConfiguration c rules).value.rules, r.2.Made := by
    rw [ofConfiguration_value]
    exact fun r hr => made r (List.mem_of_mem_filter hr)
  rcases lintScript_cases hmade path s with ⟨e, h, -⟩ | ⟨h, -⟩ | ⟨root', ds, h, -, hds, hlint⟩
  · rw [parses] at h
    cases h
  · rw [parses] at h
    cases h
  · rw [parses] at h
    cases h
    rw [ofConfiguration_value] at hds
    exact ⟨ds, hlint, hds⟩

/-- **A rule answers to its own entry.** Linting a script that has a program with the linter of a
configuration gives diagnostics. They are of rules that the rules table does not set to false, and that it
names if they are deprecated. Under the name of a rule they are the same for every other configuration with
the same vocabulary whose rules table has the same entry for the rule. -/
theorem Linter.lints_by_own_entry {stack : Stack} {config : Table} {c : Configuration}
    (accepted : (Configuration.ofValue stack (.table config)).result = .ok c) :
    ∃ ds, ((ofConfiguration c rules).value.lintScript path s).result = .ok ⟨path, some ds⟩ ∧
      (∀ d ∈ ds, ∃ rule, (d.ruleId, rule) ∈ rules ∧ config.rule? d.ruleId ≠ some (.boolean false) ∧
        (rule.info.deprecation.isDeprecated = true → config.rule? d.ruleId ≠ none)) ∧
      ∀ (stack' : Stack) (config' : Table) c',
        (Configuration.ofValue stack' (.table config')).result = .ok c' →
        c.settings.vocabulary = c'.settings.vocabulary →
        ∃ ds', ((ofConfiguration c' rules).value.lintScript path s).result = .ok ⟨path, some ds'⟩ ∧
          ∀ name, Option.Rel SameEntry (config.rule? name) (config'.rule? name) →
            ds.filter (·.ruleId == name) = ds'.filter (·.ruleId == name) := by
  obtain ⟨ds, hlint, hds⟩ := lintScript_eq_reported made parses path c
  refine ⟨ds, hlint, fun d hd => ?_, fun stack' config' c' accepted' vocabulary => ?_⟩
  · obtain ⟨r, hr, handler, hhandler, step, -, -, fs, hfs, hmem⟩ := (Dispatch.mem_reported_iff hds).mp hd
    obtain ⟨hrule, hselects⟩ := List.mem_filter.mp hr
    obtain ⟨hname, -⟩ := (made r hrule).signs hhandler hfs hmem
    have hname : d.ruleId = r.1 := hname
    rw [hname]
    exact ⟨r.2, hrule, (Configuration.selects_iff accepted r.2).mp hselects⟩
  · obtain ⟨ds', hlint', hds'⟩ := lintScript_eq_reported made parses path c'
    exact ⟨ds', hlint', fun name same =>
      filter_reported_eq accepted accepted' same made vocabulary hds hds'⟩

end

/-! ## A configuration with other entries -/

/-- The configuration that has one rules table and nothing else. -/
def rulesTable (entries : Table) : Table := [(.text "rules", .table entries)]

theorem Configuration.ofValue_rulesTable {stack : Stack} {entries : Table}
    {rules : List (String × RuleEntry)} (h : readRules [] entries = .ok rules) :
    (Configuration.ofValue stack (.table (rulesTable entries))).result =
      .ok ⟨rulesTable entries, .standard, rules⟩ := by
  have hrules : rulesOf (rulesTable entries) = .ok rules := h
  have hsettings : settingsOf stack (rulesTable entries) = .ok .standard := rfl
  rw [ofValue_result, hsettings, hrules]
  rfl

def shorthandOn : Table := rulesTable [(.text "no-event-shorthand", .boolean true)]

def shorthandConfiguration : Configuration :=
  ⟨shorthandOn, .standard, [("no-event-shorthand", .switch true)]⟩

def shorthandAmongOthers : Table :=
  rulesTable [(.text "no-bind", .boolean false), (.text "no-event-shorthand", .boolean true),
    (.text "unheard-of", .table [(.null, .null)])]

theorem program?_accentScript :
    (Script.program? ⟨"$é.click();", some Catalog.accentScript⟩).result =
      .ok (some Catalog.accentProgram) := by
  rw [Script.program?_result, ← Concrete.SourceText.lower_eq_recurse, Catalog.lower_accentScript]
  rfl

/-- The call `$é.click()` is reported beside other entries just as without them. -/
theorem Linter.lints_by_own_entry_of_accentScript :
    ∃ c' ds ds', (Configuration.ofValue .endless (.table shorthandOn)).result =
        .ok shorthandConfiguration ∧
      (Configuration.ofValue .endless (.table shorthandAmongOthers)).result = .ok c' ∧
      ((ofConfiguration shorthandConfiguration Catalog.rules).value.lintScript "a.js"
        ⟨"$é.click();", some Catalog.accentScript⟩).result = .ok ⟨"a.js", some ds⟩ ∧
      ((ofConfiguration c' Catalog.rules).value.lintScript "a.js"
        ⟨"$é.click();", some Catalog.accentScript⟩).result = .ok ⟨"a.js", some ds'⟩ ∧
      (∃ d ∈ ds, d.ruleId = "no-event-shorthand") ∧
      ds.filter (·.ruleId == "no-event-shorthand") = ds'.filter (·.ruleId == "no-event-shorthand") := by
  have accepted : (Configuration.ofValue .endless (.table shorthandOn)).result =
      .ok shorthandConfiguration := Configuration.ofValue_rulesTable rfl
  have accepted' : (Configuration.ofValue .endless (.table shorthandAmongOthers)).result = .ok _ :=
    Configuration.ofValue_rulesTable rfl
  obtain ⟨ds, hlint, -, hsame⟩ :=
    lints_by_own_entry Catalog.rules_made program?_accentScript "a.js" accepted
  obtain ⟨ds', hlint', hfilter⟩ := hsame _ _ _ accepted' rfl
  refine ⟨_, ds, ds', accepted, accepted', hlint, hlint', ?_,
    hfilter "no-event-shorthand" (.some (SameEntry.refl (.boolean true)))⟩
  -- The rule is among the selected ones, and reports the call.
  obtain ⟨es, hes, hreported⟩ := lintScript_eq_reported Catalog.rules_made program?_accentScript
    "a.js" shorthandConfiguration
  obtain rfl : es = ds := by simpa using hes.symm.trans hlint
  have hselected : Catalog.eventShorthandRule ∈
      Catalog.rules.filter fun r => selects shorthandConfiguration r.1 r.2 :=
    List.mem_filter.mpr ⟨Catalog.eventShorthandRule_mem, rfl⟩
  obtain ⟨fs, d, hfs, hd, hid, -⟩ := Catalog.exists_reported_accentNode
    shorthandConfiguration.optionsFor (fun r hr => Catalog.rules_made r (List.mem_of_mem_filter hr))
    hselected rfl
  obtain rfl := Except.ok.inj (hreported.symm.trans hfs)
  exact ⟨d, hd, hid⟩

end ChainLint
