import ChainLint.Config.Value
import ChainLint.Files.FileSystem
import ChainLint.Log

/-!
# The search for a configuration

A configuration is looked for in a directory and then in those above it, up to the root; the first
directory with a usable document decides. In each directory the table `tool.jqlint` of `pyproject.toml`
comes before `.jqlint.yaml`. A document that cannot be opened or is malformed is noted and skipped. What
is not noted but ends the search is a document that is no text, one whose outer values are no tables so
that nothing can be looked up in them, and a place of which the system does not say whether a file is
there.
-/

namespace ChainLint.Config

open Text

/-- Why a search ends without an answer. -/
inductive SearchError where
  /-- A value in which an entry is to be looked up is no table. -/
  | noLookup (typeName : String)
  | notText (error : Utf8.DecodeError)
  /-- The system does not follow the start, or does not say whether a file is there. -/
  | system (reason : String)
  deriving Repr, DecidableEq

namespace SearchError

/-- What is wrong, in words. -/
def message : SearchError → String
  | .noLookup typeName => "'" ++ typeName ++ "' object has no attribute 'get'"
  | .notText error => error.message
  | .system reason => reason

/-- Whether the error is a complaint about what a document says. -/
def isComplaint : SearchError → Bool
  | .noLookup _ | .system _ => false
  | .notText _ => true

end SearchError

namespace Search

/-- The document of a project as a whole. -/
def projectName : String := "pyproject.toml"

/-- The document that holds a configuration alone. -/
def ownName : String := ".jqlint.yaml"

/-- Note that a document is skipped because it cannot be read. -/
def noteUnreadable (place : Place) (reason : String) : Attempt SearchError Unit :=
  Attempt.note .warning .configurationSearch
    ("Ignoring unreadable " ++ place.render ++ ": " ++ reason)

/-- Note which document the configuration comes from. -/
def noteLoaded (place : Place) : Attempt SearchError Unit :=
  Attempt.note .debug .configurationSearch ("Loaded configuration from " ++ place.render)

/-- The value of a document; there is none if there is no such file or if it is skipped. -/
def document? (files : FileSystem) (place : Place) (format : Format) :
    Attempt SearchError (Option Value) :=
  let entry := files.entry place.toPath
  match entry.isFile with
  | .error reason => throw (.system reason)
  | .ok false => return none
  | .ok true =>
    match entry.content format with
    | .document value => return some value
    | .unreadable reason => do
      noteUnreadable place reason
      return none
    | .notText error => throw (.notText error)

/-- The value of an entry of a table. -/
def lookUp (value : Value) (name : String) : Except SearchError Value :=
  match value with
  | .table entries => .ok (Table.get entries name)
  | other => .error (.noLookup other.typeName)

/-- The section of a project document that holds the configuration. A void tool table counts as an empty
one. -/
def section? (document : Value) : Except SearchError (Option Table) := do
  let tool ← lookUp document "tool"
  if tool.isVoid then return none
  else
    match ← lookUp tool "jqlint" with
    | .table entries => return some entries
    | _ => return none

/-- The configuration in the project document of a directory. -/
def inProject (files : FileSystem) (directory : Place) : Attempt SearchError (Option Table) := do
  let place := directory.child projectName
  match ← document? files place .toml with
  | none => return none
  | some value =>
    match ← section? value with
    | none => return none
    | some table =>
      noteLoaded place
      return some table

/-- The configuration in the document of its own of a directory; an empty document is an empty table. -/
def inOwn (files : FileSystem) (directory : Place) : Attempt SearchError (Option Table) := do
  let place := directory.child ownName
  match ← document? files place .yaml with
  | none => return none
  | some .null => return some []
  | some (.table entries) =>
    noteLoaded place
    return some entries
  | some _ =>
    Attempt.note .warning .configurationSearch
      ("Ignoring " ++ place.render ++ ": top level must be a mapping")
    return none

/-- The configuration of a directory. -/
def inDirectory (files : FileSystem) (directory : Place) : Attempt SearchError (Option Table) := do
  match ← inProject files directory with
  | some table => return some table
  | none => inOwn files directory

/-- The configuration of the first directory that has one, or an empty one. -/
def inDirectories (files : FileSystem) : List Place → Attempt SearchError Table
  | [] => return []
  | directory :: rest => do
    match ← inDirectory files directory with
    | some table => return table
    | none => inDirectories files rest

end Search

/-- Look for the configuration that applies to a directory, or to the current one. -/
def search (files : FileSystem) (start : Option Path) : Attempt SearchError Table :=
  match files.resolve start with
  | .error reason => throw (.system reason)
  | .ok place => Search.inDirectories files place.upward

end ChainLint.Config
