import ChainLint.Command.Run
import ChainLint.Proofs.Except
import ChainLint.Proofs.Pattern.Fuel

/-!
# What a bad configuration is answered with

A table that is no configuration is answered with a complaint about what it says, and `check` shows
this complaint as one line, except for the tables that are `Unsupported`: those with a key in the block
of settings that is no text, those whose pattern has a number in it that no field holds or groups that
the stack has no room for, and those with a value in place of a plugin kind that the stack has no room to
show. On them the reading breaks off with an error that `check` passes on.

`Breaks` says that a computation fails with an error that is no complaint. Each reader gets one lemma
that says when it breaks, and the lemma of `>>=` puts them together.
-/

namespace ChainLint

open Config

/-- The computation fails with an error that is no complaint. -/
def Breaks {α : Type} (x : Except ConfigError α) : Prop :=
  ∃ e, x = .error e ∧ e.isComplaint = false

section

variable {α β : Type}

@[simp] theorem not_breaks_ok (a : α) : ¬ Breaks (.ok a) := by
  rintro ⟨e, h, -⟩
  cases h

@[simp] theorem breaks_error {e : ConfigError} :
    Breaks (.error e : Except ConfigError α) ↔ e.isComplaint = false := by
  constructor
  · rintro ⟨e', h, he⟩
    cases h
    exact he
  · intro he
    exact ⟨e, rfl, he⟩

theorem breaks_bind {x : Except ConfigError α} {f : α → Except ConfigError β} :
    Breaks (x >>= f) ↔ Breaks x ∨ ∃ a, x = .ok a ∧ Breaks (f a) := by
  match x with
  | .ok a => simp
  | .error e => simp

end

namespace Settings

/-! ## Unknown keys -/

/-- The key is a text. -/
def IsText (key : Key) : Prop := ∃ s, key = .text s

theorem unordered?_of_texts {keys : List Key} (h : ∀ key ∈ keys, IsText key) :
    unordered? keys = none := by
  induction keys with
  | nil => rfl
  | cons a keys ih =>
      obtain ⟨s, rfl⟩ := h a (List.mem_cons_self ..)
      match keys with
      | [] => rfl
      | b :: rest =>
          obtain ⟨t, rfl⟩ := h b (by simp)
          exact ih fun key hkey => h key (List.mem_cons_of_mem _ hkey)

/-- Behind a text there can only be texts, since it has no order with anything else. -/
theorem texts_of_unordered? {s : String} {keys : List Key}
    (h : unordered? (.text s :: keys) = none) : ∀ key ∈ keys, IsText key := by
  induction keys generalizing s with
  | nil => simp
  | cons b rest ih =>
      cases b with
      | text t => exact List.forall_mem_cons.mpr ⟨⟨t, rfl⟩, ih h⟩
      | _ => cases h

/-- The unknown keys of a block can be listed if they are all texts. -/
theorem unknownNames_of_texts {block : Table} (h : ∀ entry ∈ block, IsText entry.1) :
    ∃ names, unknownNames block = .ok names := by
  unfold unknownNames
  extract_lets keys
  have hkeys : ∀ key ∈ keys, IsText key := by
    intro key hkey
    obtain ⟨entry, hentry, rfl⟩ := List.mem_map.mp (List.mem_filter.mp hkey).1
    exact h entry hentry
  rw [unordered?_of_texts hkeys]
  match keys, hkeys with
  | [], _ => exact ⟨_, rfl⟩
  | .text s :: rest, _ => exact ⟨_, rfl⟩
  | .integer _ :: _, hkeys | .real _ :: _, hkeys | .boolean _ :: _, hkeys | .null :: _, hkeys =>
      obtain ⟨s, hs⟩ := hkeys _ (List.mem_cons_self ..)
      cases hs

/-- A key that is no text is unknown, and whatever it stands with cannot be listed. -/
theorem breaks_unknownNames {block : Table} (h : ∃ entry ∈ block, ¬ IsText entry.1) :
    Breaks (unknownNames block) := by
  obtain ⟨⟨key, value⟩, hentry, hkey⟩ := h
  unfold unknownNames
  extract_lets keys
  have hmem : key ∈ keys := by
    refine List.mem_filter.mpr ⟨List.mem_map_of_mem hentry, ?_⟩
    cases key with
    | text s => exact absurd ⟨s, rfl⟩ hkey
    | _ => rfl
  match hordered : unordered? keys with
  | some (a, b) => exact ⟨_, rfl, rfl⟩
  | none =>
      match keys, hmem, hordered with
      | .text s :: rest, hmem, hordered =>
          rcases List.mem_cons.mp hmem with rfl | hmem
          · exact absurd ⟨s, rfl⟩ hkey
          · exact absurd (texts_of_unordered? hordered key hmem) hkey
      | .integer _ :: _, _, _ | .real _ :: _, _, _ | .boolean _ :: _, _, _ | .null :: _, _, _ =>
          exact ⟨_, rfl, rfl⟩

/-! ## The other readers -/

theorem readBlock_table (entries : Table) :
    readBlock (.table entries) =
      match Table.get entries blockName with
      | .table block => .ok block
      | other => if other.isVoid then .ok [] else .error (.blockNotTable other.typeName) := by
  match entries with
  | [] => rfl
  | entry :: entries =>
      show (if (Table.get (entry :: entries) blockName).isVoid then _ else _) = _
      match Table.get (entry :: entries) blockName with
      | .table [] => rfl
      | .table (_ :: _) => rfl
      | .null | .boolean _ | .integer _ | .real _ | .text _ | .list _ => rfl

/-- The text that a value is, if it is one. -/
def text? : Value → Option String
  | .text s => some s
  | _ => none

theorem readAliases_list (items : List Value) :
    readAliases (.list items) =
      match items.mapM text? with
      | some names => .ok names.eraseDups
      | none => .error .aliasesNotTexts := rfl

theorem mapM_text?_eq_some_iff {items : List Value} {names : List String} :
    items.mapM text? = some names ↔ items = names.map .text := by
  induction items generalizing names with
  | nil => simp [eq_comm]
  | cons item items ih =>
      rw [List.mapM_cons]
      cases item with
      | text s => cases names <;> simp [text?, Option.bind_eq_some_iff, ih, and_comm]
      | _ => cases names <;> simp [text?]

theorem not_breaks_readAliases (value : Value) : ¬ Breaks (readAliases value) := by
  cases value with
  | null => simp [readAliases]
  | list items =>
      rw [readAliases_list]
      split <;> simp [ConfigError.isComplaint]
  | _ => simp [readAliases, ConfigError.isComplaint]

theorem readAliases_ok_iff {value : Value} :
    (∃ names, readAliases value = .ok names) ↔
      value = .null ∨ ∃ names : List String, value = .list (names.map .text) := by
  cases value with
  | null => simp [readAliases]
  | list items =>
      simp only [readAliases_list, Value.list.injEq, ← mapM_text?_eq_some_iff, reduceCtorEq, false_or]
      cases items.mapM text? <;> simp
  | _ => simp [readAliases]

/-- The pattern has a number in it that is too large for the field that holds it. -/
def Oversized (text : String) : Prop :=
  Pattern.compile text = .error .countTooLarge ∨ Pattern.compile text = .error .escapeTooLarge

variable {stack : Stack}

theorem breaks_readPattern {value : Value} :
    Breaks (readPattern stack value) ↔
      ∃ text, value = .text text ∧ (stack.compiles text = false ∨ Oversized text) := by
  cases value with
  | text text =>
      cases hroom : stack.compiles text with
      | false =>
          simp [readPattern, Stack.compile, hroom, Except.mapError, ConfigError.ofRejection,
            ConfigError.isComplaint]
      | true =>
          have hdeep := Pattern.compile_ne_tooDeep text
          match hcompile : Pattern.compile text with
          | .ok pattern =>
              simp [readPattern, Stack.compile, hroom, Oversized, hcompile, Except.mapError]
          | .error e =>
              cases e <;>
                simp_all [readPattern, Stack.compile, Oversized, Except.mapError,
                  ConfigError.ofRejection, ConfigError.isComplaint]
  | null => simp [readPattern]
  | _ => simp [readPattern, ConfigError.isComplaint]

theorem readPattern_ok_iff {value : Value} :
    (∃ pattern, readPattern stack value = .ok pattern) ↔
      value = .null ∨ ∃ text pattern, value = .text text ∧ stack.compile text = .ok pattern := by
  cases value with
  | null => simp [readPattern]
  | text text => cases h : stack.compile text <;> simp [readPattern, h, Except.mapError]
  | _ => simp [readPattern]

/-- The first entry that is refused has a value that names no kind, and that the stack has no room to
show. -/
inductive Unshowable (stack : Stack) : Table → Prop
  | here {method : Key} {value : Value} {rest : Table} (unnamed : kindOf? value = none)
      (deep : stack.shows value = false) : Unshowable stack ((method, value) :: rest)
  | behind {method : Key} {value : Value} {rest : Table} {kind : PluginKind}
      (named : kindOf? value = some kind) (spelled : method.isSpelled = true)
      (h : Unshowable stack rest) : Unshowable stack ((method, value) :: rest)

/-- A complaint about a value shows it, which takes room on the stack. -/
theorem isComplaint_kindError (method : Key) (value : Value) :
    (kindError stack method value).isComplaint = stack.shows value := by
  unfold kindError
  cases stack.shows value with
  | false => rfl
  | true => cases method.isSpelled && value.isSpelled <;> rfl

theorem breaks_readPluginEntries {plugins : List (String × PluginKind)} {entries : Table} :
    Breaks (readPluginEntries stack plugins entries) ↔ Unshowable stack entries := by
  induction entries generalizing plugins with
  | nil =>
      rw [readPluginEntries]
      exact iff_of_false (not_breaks_ok _) nofun
  | cons entry entries ih =>
      obtain ⟨method, value⟩ := entry
      rw [readPluginEntries]
      cases hkind : kindOf? value with
      | none =>
          rw [breaks_error, isComplaint_kindError]
          constructor
          · exact .here hkind
          · rintro (⟨-, deep⟩ | ⟨named, -, -⟩)
            · exact deep
            · cases hkind.symm.trans named
      | some kind =>
          dsimp only
          split
          case isTrue hspelled =>
            rw [ih]
            constructor
            · exact .behind hkind hspelled
            · rintro (⟨unnamed, -⟩ | ⟨-, -, h⟩)
              · cases hkind.symm.trans unnamed
              · exact h
          case isFalse hspelled =>
            refine iff_of_false (by simp [ConfigError.isComplaint]) ?_
            rintro (⟨unnamed, -⟩ | ⟨-, spelled, -⟩)
            · cases hkind.symm.trans unnamed
            · exact hspelled spelled

theorem breaks_readPlugins {value : Value} :
    Breaks (readPlugins stack value) ↔ ∃ entries, value = .table entries ∧ Unshowable stack entries := by
  cases value with
  | null => simp [readPlugins]
  | table entries => simp [readPlugins, breaks_readPluginEntries]
  | _ => simp [readPlugins, ConfigError.isComplaint]

/-- The aliases of the block are absent or texts. -/
def AliasesGiven (block : Table) : Prop :=
  block.get "constructorAliases" = .null ∨
    ∃ names : List String, block.get "constructorAliases" = .list (names.map .text)

/-- The pattern of the block is absent, or it can be compiled. -/
def PatternGiven (stack : Stack) (block : Table) : Prop :=
  block.get "variablePattern" = .null ∨
    ∃ text pattern, block.get "variablePattern" = .text text ∧ stack.compile text = .ok pattern

/-- The block asks for an operation that its values do not support or that takes too much of the stack:
to list keys that are no texts; to compile the pattern, unless the aliases are refused before; or to show
a value that is no plugin kind, unless the aliases or the pattern are refused before. -/
def Unsupported (stack : Stack) (block : Table) : Prop :=
  (∃ entry ∈ block, ¬ IsText entry.1) ∨
    AliasesGiven block ∧
      ((∃ text, block.get "variablePattern" = .text text ∧
          (stack.compiles text = false ∨ Oversized text)) ∨
        PatternGiven stack block ∧
          ∃ entries, block.get "collectionReturningPlugins" = .table entries ∧
            Unshowable stack entries)

theorem noteUnknown_result (names : List String) : (noteUnknown names).result = .ok () := by
  unfold noteUnknown
  split <;> rfl

/-- What is read from the block of the settings. -/
def read (stack : Stack) (block : Table) : Except ConfigError Settings := do
  let _ ← unknownNames block
  let aliases ← readAliases (block.get "constructorAliases")
  let pattern ← readPattern stack (block.get "variablePattern")
  let plugins ← readPlugins stack (block.get "collectionReturningPlugins")
  return ⟨aliases, pattern, plugins⟩

theorem ofValue_result (settings : Value) :
    (Settings.ofValue stack settings).result = readBlock settings >>= read stack := by
  simp only [Settings.ofValue, Attempt.result_bind, Attempt.result_lift, noteUnknown_result, ok_bind]
  rfl

/-- Of the settings in a block all but the aliases break the reading. -/
theorem breaks_read {block : Table} : Breaks (read stack block) ↔ Unsupported stack block := by
  have hpure : ∀ s, ¬ Breaks (pure s : Except ConfigError Settings) := not_breaks_ok
  have hread : Breaks (read stack block) ↔
      Breaks (unknownNames block) ∨ (∃ names, unknownNames block = .ok names) ∧
        (∃ names, readAliases (block.get "constructorAliases") = .ok names) ∧
          (Breaks (readPattern stack (block.get "variablePattern")) ∨
            (∃ pattern, readPattern stack (block.get "variablePattern") = .ok pattern) ∧
              Breaks (readPlugins stack (block.get "collectionReturningPlugins"))) := by
    simp only [read, breaks_bind, not_breaks_readAliases, hpure, and_false, exists_false, or_false,
      false_or, exists_and_right]
  rw [hread, readAliases_ok_iff, breaks_readPattern, readPattern_ok_iff, breaks_readPlugins,
    Unsupported, AliasesGiven, PatternGiven]
  by_cases htexts : ∀ entry ∈ block, IsText entry.1
  · have hknown := unknownNames_of_texts htexts
    have hunbroken : ¬ Breaks (unknownNames block) := by
      obtain ⟨names, hnames⟩ := hknown
      rw [hnames]
      exact not_breaks_ok names
    have hknown' : ¬ ∃ entry ∈ block, ¬ IsText entry.1 := by simpa using htexts
    simp only [hknown, hknown', hunbroken, true_and, false_or]
  · have hbroken : ∃ entry ∈ block, ¬ IsText entry.1 := by simpa using htexts
    exact iff_of_true (.inl (breaks_unknownNames hbroken)) (.inl hbroken)

theorem not_unsupported_nil : ¬ Unsupported stack [] := by
  rintro (⟨entry, hentry, -⟩ | ⟨-, ⟨text, htext, -⟩ | ⟨-, entries, hentries, -⟩⟩)
  · cases hentry
  · cases htext
  · cases hentries

theorem breaks_ofValue {entries : Table} :
    Breaks (Settings.ofValue stack (.table entries)).result ↔
      ∃ block, Table.get entries blockName = .table block ∧ Unsupported stack block := by
  rw [ofValue_result, readBlock_table]
  cases Table.get entries blockName with
  | table block => simp [breaks_read]
  | _ =>
      dsimp only
      split <;> simp [breaks_read, not_unsupported_nil, ConfigError.isComplaint]

end Settings

namespace Configuration

theorem not_breaks_readRules (rules : List (String × RuleEntry)) (entries : Table) :
    ¬ Breaks (readRules rules entries) := by
  induction entries generalizing rules with
  | nil => simp [readRules]
  | cons entry entries ih =>
      obtain ⟨rule, value⟩ := entry
      rw [readRules]
      split
      · split
        · exact ih _
        · simp [ConfigError.isComplaint]
      · simp [ConfigError.isComplaint]

theorem tableOf_table (config : Table) : tableOf (.table config) = .ok config := by
  cases config <;> rfl

/-- The settings of the table break the reading. -/
def Unsupported (stack : Stack) (config : Table) : Prop :=
  ∃ settings block, config.find? "settings" = some (.table settings) ∧
    Table.get settings Settings.blockName = .table block ∧ Settings.Unsupported stack block

/-- The settings that are read from a table. -/
def settingsOf (stack : Stack) (config : Table) : Except ConfigError Settings :=
  match config.find? "settings" with
  | none => (Settings.ofValue stack (.table [])).result
  | some (.table entries) => (Settings.ofValue stack (.table entries)).result
  | some _ => .error .settingsNotTable

/-- The rules that are read from a table. -/
def rulesOf (config : Table) : Except ConfigError (List (String × RuleEntry)) :=
  match config.find? "rules" with
  | none => .ok []
  | some (.table entries) => readRules [] entries
  | some _ => .error .rulesNotTable

variable {stack : Stack}

theorem ofValue_result (config : Table) :
    (Configuration.ofValue stack (.table config)).result = do
      let settings ← settingsOf stack config
      let rules ← rulesOf config
      return ⟨config, settings, rules⟩ := by
  have hrules : ∀ settings, Attempt.result (match config.find? "rules" with
      | none => do
        let rules ← pure []
        pure (⟨config, settings, rules⟩ : Configuration)
      | some (.table entries) => do
        let rules ← liftM (readRules [] entries)
        pure ⟨config, settings, rules⟩
      | some _ => do
        let rules ← throw .rulesNotTable
        pure ⟨config, settings, rules⟩) =
      rulesOf config >>= fun rules => pure ⟨config, settings, rules⟩ := by
    intro settings
    unfold rulesOf
    split
    · rfl
    · rw [Attempt.result_bind, Attempt.result_lift]
      rfl
    · rfl
  rw [Configuration.ofValue, Attempt.result_bind, Attempt.result_lift, tableOf_table, ok_bind]
  unfold settingsOf
  cases config.find? "settings" with
  | none => exact (Attempt.result_bind _ _).trans (bind_congr hrules)
  | some value =>
      cases value with
      | table entries => exact (Attempt.result_bind _ _).trans (bind_congr hrules)
      | _ => rfl

theorem not_unsupported_of_settings {config : Table}
    (h : ∀ settings, config.find? "settings" ≠ some (.table settings)) :
    ¬ Unsupported stack config := by
  rintro ⟨settings, block, hsettings, -⟩
  exact h settings hsettings

/-- A table breaks the reading by the block of its settings only. -/
theorem breaks_ofValue {config : Table} :
    Breaks (Configuration.ofValue stack (.table config)).result ↔ Unsupported stack config := by
  have hrules : ¬ Breaks (rulesOf config) := by
    unfold rulesOf
    split <;> simp [not_breaks_readRules, ConfigError.isComplaint]
  have hsettings : Breaks (settingsOf stack config) ↔ Unsupported stack config := by
    unfold settingsOf
    match h : config.find? "settings" with
    | none =>
        have hnil : ¬ ∃ block, Table.get [] Settings.blockName = .table block ∧
            Settings.Unsupported stack block := by
          rintro ⟨block, ⟨⟩, -⟩
        have hconfig : ¬ Unsupported stack config := not_unsupported_of_settings (by simp [h])
        simp only [Settings.breaks_ofValue, hnil, hconfig]
    | some (.table entries) => simp [Settings.breaks_ofValue, Unsupported, h]
    | some .null | some (.boolean _) | some (.integer _) | some (.real _) | some (.text _)
    | some (.list _) =>
        simp [not_unsupported_of_settings, h, ConfigError.isComplaint]
  rw [ofValue_result, breaks_bind, hsettings]
  refine or_iff_left ?_
  rintro ⟨settings, -, h⟩
  rcases breaks_bind.mp h with h | ⟨rules, -, h⟩
  · exact hrules h
  · exact not_breaks_ok _ h

end Configuration

namespace Command

variable {stack : Stack} {files : FileSystem} {start : Option Path}

/-- What `check` leaves behind when it complains about the configuration: one line and the exit code 2. -/
def complaint (message : String) : Outcome :=
  ⟨2, [.line ("Invalid configuration: " ++ message) "bold red"]⟩

theorem check_result_of_rejected {error : CommandError}
    (rejected : (loadConfiguration stack files start).result = .error error) (paths : List Path) :
    (check stack files paths start).result =
      if error.isComplaint then .ok (complaint error.message) else .error error := by
  rw [check, Attempt.result_bind, Attempt.result_outcome, ok_bind, rejected]
  dsimp only
  rw [Report.error_eq]
  split <;> rfl

theorem loadConfiguration_of_error {config : Table} {e : ConfigError}
    (found : (search files start).result = .ok config)
    (h : (Configuration.ofValue stack (.table config)).result = .error e) :
    (loadConfiguration stack files start).result = .error (.configuration e) := by
  simp [loadConfiguration, found, h, Except.mapError]

/-- How `check` ends when the table that was found is no configuration. -/
theorem check_result_of_error {paths : List Path} {config : Table} {e : ConfigError}
    (found : (search files start).result = .ok config)
    (h : (Configuration.ofValue stack (.table config)).result = .error e) :
    (check stack files paths start).result =
      if e.isComplaint then .ok (complaint e.message) else .error (.configuration e) :=
  check_result_of_rejected (loadConfiguration_of_error found h) paths

theorem check_result_of_breaks {paths : List Path} {config : Table} {e : ConfigError}
    (found : (search files start).result = .ok config)
    (h : (Configuration.ofValue stack (.table config)).result = .error e)
    (breaks : e.isComplaint = false) :
    (check stack files paths start).result = .error (.configuration e) := by
  rw [check_result_of_error found h, breaks]
  rfl

/-- A table that is no configuration is answered with a complaint, which `check` shows as one line, unless
it is not supported; then the reading breaks off, and `check` with it. -/
theorem bad_configuration_answer (stack : Stack) (config : Table) :
    ((∃ e, (Configuration.ofValue stack (.table config)).result = .error e ∧ e.isComplaint = false) ↔
      Configuration.Unsupported stack config) ∧
    ∀ files paths start e, (search files start).result = .ok config →
      (Configuration.ofValue stack (.table config)).result = .error e →
        (check stack files paths start).result =
          if e.isComplaint then
            .ok ⟨2, [.line ("Invalid configuration: " ++ e.message) "bold red"]⟩
          else .error (.configuration e) :=
  ⟨Configuration.breaks_ofValue, fun _ _ _ _ found h => check_result_of_error found h⟩

/-- A table with one setting. -/
def oneSetting (key : Key) (value : Value) : Table :=
  [(.text "settings", .table [(.text Settings.blockName, .table [(key, value)])])]

/-- The files where a table is the configuration of the root. -/
def atRoot (config : Table) : FileSystem :=
  FileTable.system ⟨.root, [(⟨[Search.ownName]⟩, FileEntry.document (.document (.table config)))]⟩

theorem search_atRoot (config : Table) : (search (atRoot config) none).result = .ok config := rfl

/-- The stack of a host that allows a thousand nested calls, some of which are taken. -/
def smallStack : Stack := .ofCalls 970

/-- A setting whose pattern is rejected makes a bad configuration. -/
theorem ofValue_of_rejected {text : String} {e : Pattern.Rejection}
    (h : stack.compile text = .error e) :
    (Configuration.ofValue stack (.table (oneSetting (.text "variablePattern") (.text text)))).result =
      .error (.ofRejection text e) := by
  have hpattern : Settings.readPattern stack (.text text) = .error (.ofRejection text e) := by
    rw [Settings.readPattern, h]
    rfl
  have hread : Settings.read stack [(.text "variablePattern", .text text)] =
      .error (.ofRejection text e) := by
    show (Settings.readPattern stack (.text text) >>= fun _ => _) = _
    rw [hpattern, error_bind]
  have hsettings : Configuration.settingsOf stack
      (oneSetting (.text "variablePattern") (.text text)) = .error (.ofRejection text e) := by
    show (Settings.ofValue stack (.table [(.text Settings.blockName, _)])).result = _
    rw [Settings.ofValue_result]
    exact hread
  rw [Configuration.ofValue_result, hsettings, error_bind]

theorem message_openGroup :
    (ConfigError.ofRejection "(" (.malformed .unterminatedGroup (some 0))).message =
      "variablePattern '(' is not a valid regex: missing ), unterminated subpattern at position 0" := by
  decide +kernel

theorem bad_configuration_answer_of_open_group :
    (check smallStack (atRoot (oneSetting (.text "variablePattern") (.text "("))) [] none).result =
      .ok ⟨2, [.line ("Invalid configuration: " ++
        "variablePattern '(' is not a valid regex: missing ), unterminated subpattern at position 0")
        "bold red"]⟩ := by
  have hcompile : smallStack.compile "(" = .error (.malformed .unterminatedGroup (some 0)) :=
    error?_eq_some_iff.mp (by decide +kernel)
  have hcheck := (bad_configuration_answer smallStack (oneSetting (.text "variablePattern")
    (.text "("))).2 _ [] none _ (search_atRoot _) (ofValue_of_rejected hcompile)
  rw [hcheck, message_openGroup]
  rfl

/-- A pattern of groups, each but the first inside the one before. -/
def nestedGroups (n : Nat) : String :=
  String.ofList (List.replicate n '(' ++ 'a' :: List.replicate n ')')

theorem nesting_closing (n depth : Nat) :
    Stack.nesting .expression depth (Pattern.Token.scan (List.replicate n ')')) = depth := by
  induction n generalizing depth with
  | zero => rfl
  | succ n ih =>
      show max depth (Stack.nesting .expression (depth - 1) _) = depth
      rw [ih]
      omega

theorem nesting_opening (n depth : Nat) (rest : List Char) :
    Stack.nesting .expression depth (Pattern.Token.scan (List.replicate n '(' ++ 'a' :: rest)) =
      Stack.nesting .expression (depth + n) (Pattern.Token.scan rest) := by
  induction n generalizing depth with
  | zero => rfl
  | succ n ih =>
      have hstep : Stack.nesting .expression depth
          (Pattern.Token.scan ('(' :: (List.replicate n '(' ++ 'a' :: rest))) =
            Stack.nesting .expression (depth + 1)
              (Pattern.Token.scan (List.replicate n '(' ++ 'a' :: rest)) := by
        cases n <;> rfl
      rw [List.replicate_succ, List.cons_append, hstep, ih, Nat.add_assoc, Nat.add_comm 1 n]

theorem nesting_nestedGroups (n : Nat) :
    Stack.nesting .expression 0 (Pattern.Token.scan (nestedGroups n).toList) = n := by
  rw [nestedGroups, String.toList_ofList, nesting_opening, nesting_closing, Nat.zero_add]

/-- A stack has no room for more nested groups than half of its calls. -/
theorem compile_nestedGroups {calls n : Nat} (h : calls < 2 * n) :
    (Stack.ofCalls calls).compile (nestedGroups n) = .error .tooDeep := by
  have hroom : (Stack.ofCalls calls).compiles (nestedGroups n) = false := by
    simpa [Stack.ofCalls, nesting_nestedGroups] using h
  simp [Stack.compile, hroom]

/-- A repetition that is one too large, groups that are nested too deep for the stack, and a setting with
a number for its name are bad configurations that are not answered with a complaint, and `check` passes
them on. -/
theorem unsupported_settings_break :
    (Configuration.ofValue smallStack
        (.table (oneSetting (.text "variablePattern") (.text "a\x7b4294967295\x7d")))).result =
      .error .patternCountTooLarge ∧
    ConfigError.patternCountTooLarge.isComplaint = false ∧
    (check smallStack (atRoot (oneSetting (.text "variablePattern") (.text "a\x7b4294967295\x7d"))) []
        none).result = .error (.configuration .patternCountTooLarge) ∧
    (Configuration.ofValue smallStack
        (.table (oneSetting (.text "variablePattern") (.text (nestedGroups 500))))).result =
      .error .patternTooDeep ∧
    ConfigError.patternTooDeep.isComplaint = false ∧
    (check smallStack (atRoot (oneSetting (.text "variablePattern") (.text (nestedGroups 500)))) []
        none).result = .error (.configuration .patternTooDeep) ∧
    (Configuration.ofValue smallStack (.table (oneSetting (.integer 1) (.boolean true)))).result =
      .error (.keyNotText "int") ∧
    (ConfigError.keyNotText "int").isComplaint = false ∧
    (check smallStack (atRoot (oneSetting (.integer 1) (.boolean true))) [] none).result =
      .error (.configuration (.keyNotText "int")) := by
  have hcompile : smallStack.compile "a\x7b4294967295\x7d" = .error .countTooLarge :=
    error?_eq_some_iff.mp (by decide +kernel)
  have hcount := ofValue_of_rejected hcompile
  have hcompile' : smallStack.compile (nestedGroups 500) = .error .tooDeep :=
    compile_nestedGroups (by decide)
  have hdeep := ofValue_of_rejected hcompile'
  have hkey : (Configuration.ofValue smallStack
      (.table (oneSetting (.integer 1) (.boolean true)))).result = .error (.keyNotText "int") := rfl
  exact ⟨hcount, rfl, check_result_of_breaks (search_atRoot _) hcount rfl,
    hdeep, rfl, check_result_of_breaks (search_atRoot _) hdeep rfl,
    hkey, rfl, check_result_of_breaks (search_atRoot _) hkey rfl⟩

end Command

end ChainLint
