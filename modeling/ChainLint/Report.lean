import ChainLint.Lint

/-!
# Reports

What is shown of the results of a run: lines of text in a style, and the table of rules. The console
that shows them is not part of this library.
-/

namespace ChainLint

/-- Something that a console shows. -/
inductive Shown where
  | line (text style : String)
  | table (title : String) (columns : List String) (rows : List (List String))
  deriving Repr, DecidableEq

namespace Report

def errorStyle : String := "bold red"

def summaryStyle : String := "bold yellow"

/-- The line of a diagnostic; columns are shown counting from one. -/
def diagnosticLine (path : String) (d : Diagnostic) : String :=
  path ++ ":" ++ toString d.line ++ ":" ++ toString (d.column + 1) ++ "  " ++ d.message ++ "  " ++
    d.ruleId ++ (if d.fix?.isSome then " (fixable)" else "")

/-- The lines of a result: one for each diagnostic, or one for a source that did not parse. -/
def resultLines (r : LintResult) : List String :=
  match r.diagnostics? with
  | none => [r.path ++ ": could not parse file"]
  | some diagnostics => diagnostics.map (diagnosticLine r.path)

def result (r : LintResult) : List Shown :=
  (resultLines r).map fun text => .line text (if r.isParsed then "" else errorStyle)

theorem result_unparsed (path : String) :
    result ⟨path, none⟩ = [.line (path ++ ": could not parse file") "bold red"] := rfl

theorem result_parsed (path : String) (ds : List Diagnostic) :
    result ⟨path, some ds⟩ = ds.map fun d => .line (diagnosticLine path d) "" := by
  simp [result, resultLines, LintResult.isParsed]

/-- What is shown of the number of problems: nothing at all if there are none. -/
def summary (total : Int) : List Shown :=
  if total = 0 then []
  else
    [.line ("\n" ++ toString total ++ " problem" ++ (if total = 1 then "" else "s")) summaryStyle]

theorem summary_zero : summary 0 = [] := rfl

theorem summary_of_ne {total : Int} (h : total ≠ 0) :
    summary total =
      [.line ("\n" ++ toString total ++ " problem" ++ (if total = 1 then "" else "s"))
        "bold yellow"] :=
  if_neg h

/-- What is shown of an error: its message, whatever line feeds may be in it, as one line. -/
def error (message : String) : List Shown := [.line message errorStyle]

theorem error_eq (message : String) : error message = [.line message "bold red"] := rfl

/-! ## The table of rules -/

/-- The first paragraph of a text. -/
def firstParagraph (text : List Char) : List Char :=
  match text with
  | [] => []
  | '\n' :: '\n' :: _ => []
  | c :: rest => c :: firstParagraph rest

def deprecationFlag (d : Deprecation) : String :=
  let replacements := ", ".intercalate (d.replacements?.getD [])
  if replacements.isEmpty then "deprecated" else "deprecated: use " ++ replacements

def flags (info : RuleInfo) : String :=
  "; ".intercalate
    ((if info.fixable?.isSome then ["fixable"] else []) ++
      if info.deprecation.isDeprecated then [deprecationFlag info.deprecation] else [])

def ruleRow (entry : String × Rule) : List String :=
  let (name, rule) := entry
  [name, flags rule.info, String.ofList (firstParagraph rule.info.description.toList)]

/-- The table of rules, in the order of their names. -/
def ruleTable (rules : List (String × Rule)) : List Shown :=
  let ordered := rules.mergeSort fun a b => Text.before a.1 b.1
  [.table "jqlint rules" ["Rule", "Flags", "Description"] (ordered.map ruleRow)]

end Report

end ChainLint
