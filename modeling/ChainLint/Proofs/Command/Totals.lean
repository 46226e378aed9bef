import ChainLint.Command.Run
import ChainLint.Proofs.Lint.Selection

/-!
# Exit codes and totals

`check` counts the results of its files one after another. What the tally says is what has been met so far
(`Tally.Sums`), and one more result keeps it so (`Tally.Sums.add`): the exit code is the worst of all
results in whatever order they come (`Worst`), the number of problems is the number of lines without a
style, and the lines stand in the order of the files.

The results themselves come from one file each. A file whose result is unparsed cannot be read or is without
a tree, and one with diagnostics has a program of which something is reported (`result_of_lintFile`).
-/

namespace ChainLint

/-! ## Counting results -/

/-- The exit code for the worst that was met. -/
inductive Worst (unparsed flagged : Prop) : Nat → Prop
  | unparsed (h : unparsed) : Worst unparsed flagged 2
  | flagged (parsed : ¬ unparsed) (h : flagged) : Worst unparsed flagged 1
  | clean (parsed : ¬ unparsed) (h : ¬ flagged) : Worst unparsed flagged 0

theorem Worst.unique {unparsed flagged : Prop} {a b : Nat} (ha : Worst unparsed flagged a)
    (hb : Worst unparsed flagged b) : a = b := by
  cases ha <;> cases hb <;> simp_all

/-- A line without a style, as diagnostics have; every other line has one. -/
def Shown.isPlain : Shown → Bool
  | .line _ style => style == ""
  | .table .. => false

theorem Report.countP_result (r : LintResult) : (Report.result r).countP Shown.isPlain = r.count := by
  obtain ⟨path, diagnostics?⟩ := r
  cases diagnostics? with
  | none => rfl
  | some ds =>
      have hplain : ∀ d ∈ ds, Shown.isPlain (.line (diagnosticLine path d) "") = true :=
        fun _ _ => rfl
      simpa [result, resultLines, LintResult.isParsed, LintResult.count, List.countP_map, Function.comp_def]
        using hplain

namespace Command

/-- What the tally says is what there is in the results. -/
structure Tally.Sums (t : Tally) (results : List LintResult) : Prop where
  exitCode : Worst (∃ r ∈ results, r.isParsed = false) (∃ r ∈ results, r.count ≠ 0) t.exitCode
  problems : t.problems = t.shown.countP Shown.isPlain
  shown : t.shown = results.flatMap Report.result

namespace Tally

theorem sums_start : Tally.start.Sums [] :=
  ⟨.clean (by simp) (by simp), rfl, rfl⟩

-- The code is all that the step knows of what has been met, so that the cases are those of `Worst`.
theorem worst_add {unparsed flagged : Prop} {t : Tally} (h : Worst unparsed flagged t.exitCode)
    (r : LintResult) :
    Worst (unparsed ∨ r.isParsed = false) (flagged ∨ r.count ≠ 0) (t.add r).exitCode := by
  obtain ⟨code, problems, shown⟩ := t
  cases hparsed : r.isParsed with
  | false =>
      rw [Tally.add, hparsed]
      exact .unparsed (.inr rfl)
  | true =>
      have hcode : (Tally.add ⟨code, problems, shown⟩ r).exitCode =
          if r.count ≠ 0 ∧ code = exitClean then exitProblems else code := by
        simp [Tally.add, hparsed]
      rw [hcode]
      cases h with
      | unparsed h =>
          rw [if_neg (by simp [exitClean])]
          exact .unparsed (.inl h)
      | flagged parsed h =>
          rw [if_neg (by simp [exitClean])]
          exact .flagged (by simpa using parsed) (.inl h)
      | clean parsed h =>
          by_cases hcount : r.count = 0
          · rw [if_neg (by simp [hcount])]
            exact .clean (by simpa using parsed) (by simpa [hcount] using h)
          · rw [if_pos ⟨hcount, rfl⟩]
            exact .flagged (by simpa using parsed) (.inr hcount)

theorem Sums.add {t : Tally} {results : List LintResult} (h : t.Sums results) (r : LintResult) :
    (t.add r).Sums (results ++ [r]) := by
  refine ⟨?_, ?_, ?_⟩
  · simpa [or_and_right, exists_or] using worst_add h.exitCode r
  · simp [Tally.add, h.problems, Report.countP_result]
  · simp [Tally.add, h.shown]

theorem Sums.foldl {t : Tally} {counted : List LintResult} (h : t.Sums counted)
    (results : List LintResult) : (results.foldl Tally.add t).Sums (counted ++ results) := by
  induction results generalizing t counted with
  | nil => simpa using h
  | cons r results ih => simpa using ih (h.add r)

end Tally

theorem outcomeOf_eq (results : List LintResult) :
    ∃ code, Worst (∃ r ∈ results, r.isParsed = false) (∃ r ∈ results, r.count ≠ 0) code ∧
      outcomeOf results = ⟨code, results.flatMap Report.result ++
        Report.summary ((results.flatMap Report.result).countP Shown.isPlain)⟩ := by
  have sums : (results.foldl Tally.add .start).Sums results := Tally.sums_start.foldl results
  refine ⟨_, sums.exitCode, ?_⟩
  rw [outcomeOf, Tally.outcome, sums.problems, sums.shown]

end Command

/-! ## The result of one file -/

theorem Script.program?_eq_none_iff (s : Script) : s.program?.result = .ok none ↔ s.tree? = none := by
  obtain ⟨text, tree?⟩ := s
  cases tree? with
  | none => simp [program?, Except.map]
  | some t =>
      rw [program?_result]
      cases (Concrete.SourceText.ofString text).recurse t <;> simp [Except.map]

/-- The file cannot be read, or its text did not parse. -/
def Unparsed (files : FileSystem) (path : Path) : Prop :=
  (∃ error, files.readScript path = .error error) ∨
    ∃ s, files.readScript path = .ok s ∧ s.tree? = none

namespace Linter

/-- Something is reported of the program in the file. -/
def Flags (l : Linter) (files : FileSystem) (path : Path) : Prop :=
  ∃ s root ds, files.readScript path = .ok s ∧ s.program?.result = .ok (some root) ∧
    Dispatch.reported l.configuration.settings.vocabulary root l.rules
      l.configuration.optionsFor = .ok ds ∧ ds ≠ []

variable {l : Linter} {files : FileSystem} {path : Path}

theorem lintFile_of_unread {error : ReadError} (h : files.readScript path = .error error) :
    (l.lintFile files path).result = .ok ⟨path.render, none⟩ := by
  rw [lintFile, h]
  rfl

theorem lintFile_of_read {s : Script} (h : files.readScript path = .ok s) :
    (l.lintFile files path).result = (l.lintScript path.render s).result := by
  rw [lintFile, h]
  simp

theorem result_of_lintFile (made : ∀ r ∈ l.rules, r.2.Made) {r : LintResult}
    (h : (l.lintFile files path).result = .ok r) :
    r.path = path.render ∧ (r.isParsed = false ↔ Unparsed files path) ∧
      (r.count ≠ 0 ↔ l.Flags files path) := by
  cases hread : files.readScript path with
  | error error =>
      rw [lintFile_of_unread hread] at h
      cases h
      simp [LintResult.isParsed, LintResult.count, Unparsed, Flags, hread]
  | ok s =>
      rw [lintFile_of_read hread] at h
      have hunparsed : Unparsed files path ↔ s.program?.result = .ok none := by
        simp [Unparsed, hread, s.program?_eq_none_iff]
      rw [hunparsed]
      rcases lintScript_cases made path.render s with
        ⟨e, -, hlint⟩ | ⟨hprogram, hlint⟩ | ⟨root, ds, hprogram, -, hds, hlint⟩
      · rw [hlint] at h
        cases h
      · rw [hlint] at h
        cases h
        simp [LintResult.isParsed, LintResult.count, Flags, hread, hprogram]
      · rw [hlint] at h
        cases h
        simp [LintResult.isParsed, LintResult.count, Flags, hread, hprogram, hds]

end Linter

/-! ## Checking files -/

namespace Command

/-- The linter that `check` runs for a configuration. -/
def linterOf (c : Configuration) : Linter := (Linter.ofConfiguration c Catalog.rules).value

theorem made_of_mem_linterOf (c : Configuration) : ∀ r ∈ (linterOf c).rules, r.2.Made := by
  rw [linterOf, Linter.ofConfiguration_value]
  exact fun r hr => Catalog.rules_made r (List.mem_filter.mp hr).1

/-- The lines for a file: one for each diagnostic, or one that says that it could not be parsed. -/
def linesFor (path : Path) : Option (List Diagnostic) → List Shown
  | none => [.line (path.render ++ ": could not parse file") "bold red"]
  | some ds => ds.map fun d => .line (Report.diagnosticLine path.render d) ""

/-- The lines for files of which this was found, in the order of the files. -/
def shownOf (found : Path → Option (List Diagnostic)) (paths : List Path) : List Shown :=
  paths.flatMap fun path => linesFor path (found path)

/-- The line that tells the number of problems; there is none if there are no problems. -/
def totalLines (total : Nat) : List Shown :=
  if total = 0 then []
  else [.line ("\n" ++ toString total ++ " problem" ++ (if total = 1 then "" else "s")) "bold yellow"]

theorem result_eq_linesFor (path : Path) (diagnostics? : Option (List Diagnostic)) :
    Report.result ⟨path.render, diagnostics?⟩ = linesFor path diagnostics? := by
  cases diagnostics? with
  | none => exact Report.result_unparsed _
  | some ds => exact Report.result_parsed _ _

theorem countP_linesFor (path : Path) (diagnostics? : Option (List Diagnostic)) :
    (linesFor path diagnostics?).countP Shown.isPlain = (diagnostics?.getD []).length := by
  rw [← result_eq_linesFor, Report.countP_result, LintResult.count]

theorem countP_shownOf (found : Path → Option (List Diagnostic)) (paths : List Path) :
    (shownOf found paths).countP Shown.isPlain =
      sumOver (fun path => ((found path).getD []).length) paths := by
  induction paths with
  | nil => rfl
  | cons path paths ih =>
      rw [shownOf, List.flatMap_cons, List.countP_append, countP_linesFor, sumOver_cons, ← ih, shownOf]

theorem summary_eq_totalLines (total : Nat) : Report.summary total = totalLines total := by
  by_cases h : total = 0
  · rw [h]
    exact Report.summary_zero
  · have hone : (total : Int) = 1 ↔ total = 1 := by omega
    rw [Report.summary_of_ne (Int.natCast_ne_zero.mpr h), totalLines, if_neg h]
    simp only [hone]
    rfl

variable {stack : Stack} {files : FileSystem} {start : Option Path}

section

variable {c : Configuration} (accepted : (loadConfiguration stack files start).result = .ok c)
  {paths : List Path} {found : Path → Option (List Diagnostic)}
  (lints : ∀ path ∈ paths, ((linterOf c).lintFile files path).result = .ok ⟨path.render, found path⟩)

include accepted lints

theorem check_result_of_lints :
    (check stack files paths start).result =
      .ok (outcomeOf (paths.map fun path => ⟨path.render, found path⟩)) := by
  have hresults : (paths.mapM fun path =>
      (((linterOf c).lintFile files path).mapError CommandError.lint).result) =
        .ok (paths.map fun path => ⟨path.render, found path⟩) := by
    refine mapM_eq_ok_map fun path hpath => ?_
    rw [Attempt.result_mapError, lints path hpath]
    rfl
  rw [check, Attempt.result_bind, Attempt.result_outcome, ok_bind, accepted]
  show (do
    let results ← paths.mapM fun path => ((linterOf c).lintFile files path).mapError .lint
    return outcomeOf results : Attempt CommandError Outcome).result = _
  rw [Attempt.result_bind, Attempt.result_mapM, hresults]
  rfl

theorem check_worst :
    ∃ code, Worst (∃ path ∈ paths, Unparsed files path)
        (∃ path ∈ paths, (linterOf c).Flags files path) code ∧
      (check stack files paths start).result = .ok ⟨code, shownOf found paths ++
        totalLines ((shownOf found paths).countP Shown.isPlain)⟩ := by
  obtain ⟨code, worst, houtcome⟩ :=
    outcomeOf_eq (paths.map fun path => (⟨path.render, found path⟩ : LintResult))
  have hresult : ∀ path ∈ paths,
      ((⟨path.render, found path⟩ : LintResult).isParsed = false ↔ Unparsed files path) ∧
        ((⟨path.render, found path⟩ : LintResult).count ≠ 0 ↔ (linterOf c).Flags files path) :=
    fun path hpath => (Linter.result_of_lintFile (made_of_mem_linterOf c) (lints path hpath)).2
  refine ⟨code, ?_, ?_⟩
  · simp only [List.mem_map, exists_exists_and_eq_and] at worst
    rwa [exists_congr fun path => and_congr_right fun hpath => (hresult path hpath).1,
      exists_congr fun path => and_congr_right fun hpath => (hresult path hpath).2] at worst
  · rw [check_result_of_lints accepted lints, houtcome, List.flatMap_map]
    simp only [result_eq_linesFor, summary_eq_totalLines, shownOf]

end

/-- Nothing is linted for a configuration that is complained about. -/
theorem check_of_complaint {error : CommandError}
    (rejected : (loadConfiguration stack files start).result = .error error)
    (complains : error.isComplaint = true) (paths : List Path) :
    check stack files paths start = check stack files [] start ∧
      (check stack files paths start).result =
        .ok ⟨2, [.line ("Invalid configuration: " ++ error.message) "bold red"]⟩ := by
  constructor
  · refine Attempt.bind_congr_of_result (Attempt.result_outcome _) ?_
    rw [rejected]
  · rw [check_result_of_rejected rejected, if_pos complains, complaint]

/-- **Exit code and total do not depend on the order of the files.** Where a configuration is accepted and
linting fails for none of the files, each file is shown by the lines of its own result, in the order of the
files. At the end stands the number of problems, unless there are none; it is the number of diagnostics, and
of the lines that show one. The exit code is 2 if a file cannot be read or did not parse, else 1 if something
is reported of one, else 0. Both are the same in every order of the files. Where the configuration is
complained about, a single line is all that is shown, with the complaint as it is; the exit code is 2, and it
does not matter which files are given. -/
theorem check_totals (stack : Stack) (files : FileSystem) (start : Option Path) :
    (∀ c, (loadConfiguration stack files start).result = .ok c → ∀ paths : List Path,
      (∀ path ∈ paths, ∃ r, ((linterOf c).lintFile files path).result = .ok r) →
        ∃ (found : Path → Option (List Diagnostic)) (code total : Nat),
          (∀ path ∈ paths,
            ((linterOf c).lintFile files path).result = .ok ⟨path.render, found path⟩ ∧
              Report.result ⟨path.render, found path⟩ = linesFor path (found path)) ∧
          Worst (∃ path ∈ paths, Unparsed files path)
            (∃ path ∈ paths, (linterOf c).Flags files path) code ∧
          total = (shownOf found paths).countP Shown.isPlain ∧
          total = sumOver (fun path => ((found path).getD []).length) paths ∧
          (Report.summary total = totalLines total ∧ (totalLines total = [] ↔ total = 0)) ∧
          ∀ paths', paths'.Perm paths → (check stack files paths' start).result =
            .ok ⟨code, shownOf found paths' ++ totalLines total⟩) ∧
    ∀ error, (loadConfiguration stack files start).result = .error error → error.isComplaint = true →
      ∀ paths, check stack files paths start = check stack files [] start ∧
        (check stack files paths start).result =
          .ok ⟨2, [.line ("Invalid configuration: " ++ error.message) "bold red"]⟩ := by
  refine ⟨fun c accepted paths lints => ?_, fun error => check_of_complaint⟩
  have hnamed : ∀ path ∈ paths, ∃ diagnostics?,
      ((linterOf c).lintFile files path).result = .ok ⟨path.render, diagnostics?⟩ := by
    intro path hpath
    obtain ⟨⟨name, diagnostics?⟩, hlint⟩ := lints path hpath
    obtain ⟨rfl, -⟩ := Linter.result_of_lintFile (made_of_mem_linterOf c) hlint
    exact ⟨diagnostics?, hlint⟩
  choose! found lints using hnamed
  obtain ⟨code, worst, -⟩ := check_worst accepted lints
  refine ⟨found, code, _, fun path hpath => ⟨lints path hpath, result_eq_linesFor ..⟩, worst, rfl,
    countP_shownOf found paths, ⟨summary_eq_totalLines _, by simp [totalLines]⟩, fun paths' perm => ?_⟩
  obtain ⟨code', worst', hcheck⟩ :=
    check_worst accepted fun path (hpath : path ∈ paths') => lints path (perm.mem_iff.mp hpath)
  simp only [perm.mem_iff] at worst'
  have hcount : (shownOf found paths').countP Shown.isPlain =
      (shownOf found paths).countP Shown.isPlain := (perm.flatMap_right _).countP_eq _
  rw [hcheck, worst'.unique worst, hcount]

/-! ## A script that is reported and one that did not parse -/

def flaggedPath : Path := ⟨none, ["a.js"]⟩

def brokenPath : Path := ⟨none, ["b.js"]⟩

def missingPath : Path := ⟨none, ["c.js"]⟩

/-- What the readers of documents make of a script. -/
def scriptContent (text : String) : Format → Content
  | .toml => .unreadable "Invalid statement (at line 1, column 1)"
  | .yaml => .document (.text text)

/-- Two scripts, of which the second does not parse, and a configuration in one directory. -/
def mixedFiles : FileSystem :=
  FileTable.system ⟨.root,
    [(⟨["a.js"]⟩, .text (scriptContent "$é.click();") ⟨"$é.click();", some Catalog.accentScript⟩),
      (⟨["b.js"]⟩, .text (scriptContent "$(") ⟨"$(", none⟩),
      (⟨[Config.Search.ownName]⟩, .document (.document (.table shorthandOn)))]⟩

theorem loadConfiguration_mixedFiles :
    (loadConfiguration .endless mixedFiles none).result = .ok shorthandConfiguration := by
  have accepted : (Configuration.ofValue .endless (.table shorthandOn)).result =
      .ok shorthandConfiguration := Configuration.ofValue_rulesTable rfl
  have found : (Config.search mixedFiles none).result = .ok shorthandOn := rfl
  simp [loadConfiguration, found, accepted, Except.mapError]

/-! The one rule that is configured, with those that run in any case. -/

section

open Dispatch Catalog

def shorthandRules : List (String × Rule) :=
  Catalog.rules.filter fun r => Linter.selects shorthandConfiguration r.1 r.2

theorem linterOf_shorthand :
    linterOf shorthandConfiguration = ⟨shorthandConfiguration, shorthandRules⟩ := by
  rw [linterOf, Linter.ofConfiguration_value]
  rfl

def clickDiagnostic : Diagnostic :=
  ⟨"no-event-shorthand", accentNode, "Prefer .on or .trigger to .click",
    some [⟨⟨3, 8⟩, "trigger"⟩, ⟨⟨9, 9⟩, "\"click\""⟩]⟩

theorem walk_accentProgram :
    accentProgram.walk =
      [.enter accentProgram, .enter (.other ⟨1, ⟨0, 11⟩, ⟨1, 0⟩⟩ "ExpressionStatement" [accentNode]),
        .enter accentNode, .enter accentCallee, .enter (.identifier ⟨4, ⟨0, 2⟩, ⟨1, 0⟩⟩ "$é"),
        .leave (.identifier ⟨4, ⟨0, 2⟩, ⟨1, 0⟩⟩ "$é"),
        .enter (.identifier ⟨5, ⟨3, 8⟩, ⟨1, 3⟩⟩ "click"),
        .leave (.identifier ⟨5, ⟨3, 8⟩, ⟨1, 3⟩⟩ "click"), .leave accentCallee, .leave accentNode,
        .leave (.other ⟨1, ⟨0, 11⟩, ⟨1, 0⟩⟩ "ExpressionStatement" [accentNode]),
        .leave accentProgram] := by
  simp [Node.walk, Node.walkFrom, accentProgram, accentNode, accentCallee, Node.children]

theorem atStep_accentNode {p : Parents}
    (answer : Settings.standard.vocabulary.classify p .collection (some accentCallee) = .ok true) :
    atStep (handlers Settings.standard.vocabulary p shorthandConfiguration.optionsFor shorthandRules)
      (.leave accentNode) = .ok [.problem clickDiagnostic] := by
  have hcalled : Rule.calledMethod? eventShorthands accentNode = some (accentCallee, "click") := rfl
  have hfinds := Rule.collectionMethod_handle eventShorthands (made eventShorthandMessage)
    (repairing Fix.eventShorthand)
    (c := contextOf Settings.standard.vocabulary p shorthandConfiguration.optionsFor
      "no-event-shorthand")
    (List.mem_singleton.mpr rfl) hcalled not_isConstructor_accentCallee (Rule.allows_of_plain rfl _)
    answer
  refine atStep_of_handlers [[], [], [], [], [], [], [], [_], [], []] ?_
  exact .cons rfl (.cons rfl (.cons rfl (.cons rfl (.cons rfl (.cons rfl (.cons rfl (.cons hfinds
    (.cons rfl (.cons rfl .nil)))))))))

/-- The call of `click` is all that is reported. -/
theorem reported_accentProgram :
    reported Settings.standard.vocabulary accentProgram shorthandRules
      shorthandConfiguration.optionsFor = .ok [clickDiagnostic] := by
  have hclass : Settings.standard.vocabulary.classify (.ofRoot accentProgram) .collection
      (some accentCallee) = .ok true :=
    classify_callee _ distinct_accentProgram complete_accentProgram accentNode_mem_nodes
      chain_accentCallee
  have hwalk : onWalk (handlers Settings.standard.vocabulary (.ofRoot accentProgram)
      shorthandConfiguration.optionsFor shorthandRules) accentProgram.walk =
        .ok [.problem clickDiagnostic] := by
    rw [walk_accentProgram]
    refine onWalk_of_steps [[], [], [], [], [], [], [], [], [], [.problem clickDiagnostic], [], []] ?_
    generalize Parents.ofRoot accentProgram = p at hclass
    refine .cons rfl (.cons rfl (.cons rfl (.cons rfl (.cons rfl (.cons rfl (.cons rfl (.cons rfl
      (.cons rfl ?_))))))))
    exact .cons (atStep_accentNode hclass) (.cons rfl (.cons rfl .nil))
  rw [reported_eq, hwalk]
  exact congrArg Except.ok (List.mergeSort_singleton _)

end

theorem lintFile_flaggedPath :
    ((linterOf shorthandConfiguration).lintFile mixedFiles flaggedPath).result =
      .ok ⟨"a.js", some [clickDiagnostic]⟩ := by
  obtain ⟨ds, hlint, hreported⟩ := Linter.lintScript_eq_reported Catalog.rules_made
    program?_accentScript flaggedPath.render shorthandConfiguration
  obtain rfl := Except.ok.inj (hreported.symm.trans reported_accentProgram)
  exact (Linter.lintFile_of_read rfl).trans hlint

theorem lintFile_brokenPath :
    ((linterOf shorthandConfiguration).lintFile mixedFiles brokenPath).result = .ok ⟨"b.js", none⟩ :=
  (Linter.lintFile_of_read rfl).trans rfl

theorem lintFile_missingPath :
    ((linterOf shorthandConfiguration).lintFile mixedFiles missingPath).result = .ok ⟨"c.js", none⟩ :=
  Linter.lintFile_of_unread rfl

theorem flags_mixedFiles : (linterOf shorthandConfiguration).Flags mixedFiles flaggedPath := by
  refine ⟨_, _, [clickDiagnostic], rfl, program?_accentScript, ?_, by simp⟩
  rw [linterOf_shorthand]
  exact reported_accentProgram

theorem found_eq {l : Linter} {path : Path} {found : Path → Option (List Diagnostic)} {r : LintResult}
    (h : (l.lintFile files path).result = .ok ⟨path.render, found path⟩)
    (h' : (l.lintFile files path).result = .ok r) : found path = r.diagnostics? :=
  congrArg LintResult.diagnostics? (Except.ok.inj (h.symm.trans h'))

theorem lints_mixedFiles {paths : List Path}
    (h : ∀ path ∈ paths, path ∈ [flaggedPath, brokenPath, missingPath]) :
    ∀ path ∈ paths, ∃ r, ((linterOf shorthandConfiguration).lintFile mixedFiles path).result =
      .ok r := by
  intro path hpath
  simp only [List.mem_cons, List.not_mem_nil, or_false] at h
  rcases h path hpath with rfl | rfl | rfl
  · exact ⟨_, lintFile_flaggedPath⟩
  · exact ⟨_, lintFile_brokenPath⟩
  · exact ⟨_, lintFile_missingPath⟩

/-- The script that did not parse decides the exit code wherever it stands; where the other one is alone, what
is reported of it decides. Nothing is shown of either where the configuration is complained about. -/
theorem check_totals_of_mixedFiles :
    ((check .endless mixedFiles [flaggedPath, brokenPath, missingPath] none).result =
        .ok ⟨2, [.line "a.js:1:1  Prefer .on or .trigger to .click  no-event-shorthand (fixable)" "",
          .line "b.js: could not parse file" "bold red", .line "c.js: could not parse file" "bold red",
          .line "\n1 problem" "bold yellow"]⟩ ∧
      (check .endless mixedFiles [missingPath, flaggedPath, brokenPath] none).result =
        .ok ⟨2, [.line "c.js: could not parse file" "bold red",
          .line "a.js:1:1  Prefer .on or .trigger to .click  no-event-shorthand (fixable)" "",
          .line "b.js: could not parse file" "bold red", .line "\n1 problem" "bold yellow"]⟩) ∧
      (check .endless mixedFiles [flaggedPath, flaggedPath] none).result =
        .ok ⟨1, [.line "a.js:1:1  Prefer .on or .trigger to .click  no-event-shorthand (fixable)" "",
          .line "a.js:1:1  Prefer .on or .trigger to .click  no-event-shorthand (fixable)" "",
          .line "\n2 problems" "bold yellow"]⟩ ∧
      (check .endless (atRoot (oneSetting (.text "variablePattern") (.text "(")))
        [flaggedPath, brokenPath] none).result =
          .ok ⟨2, [.line ("Invalid configuration: " ++
            "variablePattern '(' is not a valid regex: missing ), unterminated subpattern at position 0")
            "bold red"]⟩ := by
  obtain ⟨accepted, -⟩ := check_totals .endless mixedFiles none
  have checks := accepted shorthandConfiguration loadConfiguration_mixedFiles
  have hbroken : Unparsed mixedFiles brokenPath := .inr ⟨_, rfl, rfl⟩
  have hflagged : ¬ Unparsed mixedFiles flaggedPath := by
    rintro (⟨error, h⟩ | ⟨s, h, hs⟩)
    · cases h
    · cases h
      cases hs
  refine ⟨?_, ?_, ?_⟩
  · obtain ⟨found, code, total, results, worst, -, htotal, -, hcheck⟩ :=
      checks [flaggedPath, brokenPath, missingPath] (lints_mixedFiles (by decide))
    obtain rfl : code = 2 := worst.unique (.unparsed ⟨brokenPath, by decide, hbroken⟩)
    have ha := found_eq (results flaggedPath (by decide)).1 lintFile_flaggedPath
    have hb := found_eq (results brokenPath (by decide)).1 lintFile_brokenPath
    have hc := found_eq (results missingPath (by decide)).1 lintFile_missingPath
    obtain rfl : total = 1 := by simpa [ha, hb, hc] using htotal
    constructor
    · rw [hcheck _ (.refl _)]
      simp only [shownOf, List.flatMap_cons, List.flatMap_nil, ha, hb, hc]
      rfl
    · rw [hcheck _ (by decide)]
      simp only [shownOf, List.flatMap_cons, List.flatMap_nil, ha, hb, hc]
      rfl
  · obtain ⟨found, code, total, results, worst, -, htotal, -, hcheck⟩ :=
      checks [flaggedPath, flaggedPath] (lints_mixedFiles (by decide))
    obtain rfl : code = 1 :=
      worst.unique (.flagged (by simp [hflagged]) ⟨flaggedPath, by decide, flags_mixedFiles⟩)
    have ha := found_eq (results flaggedPath (by decide)).1 lintFile_flaggedPath
    obtain rfl : total = 2 := by simpa [ha] using htotal
    rw [hcheck _ (.refl _)]
    simp only [shownOf, List.flatMap_cons, List.flatMap_nil, ha]
    rfl
  · have hcompile : Stack.endless.compile "(" = .error (.malformed .unterminatedGroup (some 0)) :=
      error?_eq_some_iff.mp (by decide +kernel)
    obtain ⟨-, complains⟩ :=
      check_totals .endless (atRoot (oneSetting (.text "variablePattern") (.text "("))) none
    have hload := loadConfiguration_of_error (search_atRoot _) (ofValue_of_rejected hcompile)
    rw [(complains _ hload rfl [flaggedPath, brokenPath]).2, CommandError.message, message_openGroup]

end Command

end ChainLint
