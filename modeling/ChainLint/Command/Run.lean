import ChainLint.Command.Arguments
import ChainLint.Config.Search
import ChainLint.Report
import ChainLint.Rule.Catalog

/-!
# Commands

The commands of the linter: `check` lints files with the built-in rules, `rules` lists these. A complaint
about the configuration is shown as one line, and no file is linted then. The exit code says the worst
that was met: a file that did not parse, a problem, or nothing.
-/

namespace ChainLint.Command

inductive CommandError where
  | search (error : Config.SearchError)
  | configuration (error : ConfigError)
  | lint (error : LintError)
  deriving Repr

namespace CommandError

def message : CommandError → String
  | .search error => error.message
  | .configuration error => error.message
  | .lint error => error.message

/-- Whether the error is a complaint about the configuration, which is shown and not passed on. -/
def isComplaint : CommandError → Bool
  | .search error => error.isComplaint
  | .configuration error => error.isComplaint
  | .lint _ => false

end CommandError

/-- What a command leaves behind. -/
structure Outcome where
  exitCode : Nat
  shown : List Shown
  deriving Repr, DecidableEq

def exitClean : Nat := 0

def exitProblems : Nat := 1

/-- The exit code if the configuration or a file could not be understood. -/
def exitUnparsed : Nat := 2

/-! ## Checking files -/

/-- The configuration that applies to a directory. -/
def loadConfiguration (stack : Stack) (files : FileSystem) (start : Option Path) :
    Attempt CommandError Configuration := do
  let table ← (Config.search files start).mapError .search
  (Configuration.ofValue stack (.table table)).mapError .configuration

/-- What has been shown and counted of the results so far. -/
structure Tally where
  exitCode : Nat
  problems : Nat
  shown : List Shown

namespace Tally

def start : Tally := ⟨exitClean, 0, []⟩

/-- Count one more result. A source that did not parse sets the exit code whatever it is, diagnostics do so
only if nothing has been met yet. -/
def add (t : Tally) (r : LintResult) : Tally where
  exitCode :=
    if !r.isParsed then exitUnparsed
    else if r.count != 0 && t.exitCode == exitClean then exitProblems
    else t.exitCode
  problems := t.problems + r.count
  shown := t.shown ++ Report.result r

def outcome (t : Tally) : Outcome := ⟨t.exitCode, t.shown ++ Report.summary t.problems⟩

end Tally

/-- What is left behind for the results of all files. -/
def outcomeOf (results : List LintResult) : Outcome :=
  (results.foldl Tally.add .start).outcome

def check (stack : Stack) (files : FileSystem) (paths : List Path) (start : Option Path) :
    Attempt CommandError Outcome := do
  match ← (loadConfiguration stack files start).outcome with
  | .error error =>
    if error.isComplaint then
      return ⟨exitUnparsed, Report.error ("Invalid configuration: " ++ error.message)⟩
    else throw error
  | .ok configuration =>
    let linter ← ExceptT.lift (Linter.ofConfiguration configuration Catalog.rules)
    return outcomeOf (← paths.mapM fun path => (linter.lintFile files path).mapError .lint)

/-! ## All commands -/

def perform (stack : Stack) (files : FileSystem) : Request → Attempt CommandError Outcome
  | .help => return ⟨exitClean, []⟩
  | .check _ paths start => check stack files paths start
  | .rules _ => return ⟨exitClean, Report.ruleTable Catalog.rules⟩

/-- Whether the whole log is shown, and not only its warnings. -/
def showsAll : Request → Bool
  | .check verbose .. | .rules verbose => verbose
  | .help => false

def logLines (all : Bool) (log : List Log.Entry) : List String :=
  (log.filter fun e => all || e.level == .warning).map Log.Entry.line

/-- What a run leaves behind: an outcome or an error, and lines of the log. -/
structure Trace where
  outcome : Except CommandError Outcome
  logLines : List String

/-- Run a command line. One that is not understood ends the run at once. -/
def run (stack : Stack) (files : FileSystem) (arguments : List String) : Trace :=
  match Request.ofArguments arguments with
  | .error _ => ⟨.ok ⟨exitUnparsed, []⟩, []⟩
  | .ok request =>
    let attempt := perform stack files request
    ⟨attempt.result, logLines (showsAll request) attempt.log⟩

end ChainLint.Command
