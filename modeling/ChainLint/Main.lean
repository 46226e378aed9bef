import ChainLint.Command.Run
import ChainLint.Concrete.Outline

/-!
# The program

The command line of the linter. A script `a.js` is read together with `a.js.outline`, the outline of its
concrete tree; a script without one counts as not parsed. Readers of configuration formats are not part
of the program: a configuration document that is found is reported as unreadable and skipped.
-/

namespace ChainLint.Program

open Text

/-- The name of the outline of a script. -/
def outlineName (path : String) : String := path ++ ".outline"

/-- The bytes of a file; none if there is no such file, and a reason if it cannot be read. -/
def bytesOf (path : String) : IO (Except String (Option (List UInt8))) := do
  try
    return .ok (some (← IO.FS.readBinFile path).toList)
  catch
    | .noFileOrDirectory .. => return .ok none
    | error => return .error (toString error)

/-- The concrete tree of a script, if there is an outline of it. -/
def treeOf (path : String) : IO (Option Concrete.Tree) := do
  match ← bytesOf (outlineName path) with
  | .ok (some bytes) =>
    match Utf8.decode bytes with
    | .ok cs => return Concrete.Outline.read (String.ofList cs)
    | .error _ => return none
  | _ => return none

/-- The file at a place, if there is one. -/
def entryAt (place : Place) : IO (Option (Place × FileEntry)) := do
  match ← bytesOf place.render with
  | .ok none => return none
  | .error reason => return some (place, .locked reason)
  | .ok (some bytes) =>
    match Utf8.decode bytes with
    | .error error => return some (place, .notText error)
    | .ok cs =>
      let s : Script := ⟨String.ofList cs, ← treeOf place.render⟩
      return some (place, .text (fun _ => .unreadable "there is no reader for this format") s)

/-- The places of the configuration documents that a search from a directory looks at. -/
def documentPlaces (start : Place) : List Place :=
  start.upward.flatMap fun directory =>
    [directory.child Config.Search.projectName, directory.child Config.Search.ownName]

/-- The files that a request can see. -/
def filesFor (current : Place) (request : Command.Request) : IO FileTable := do
  match request with
  | .check _ paths start =>
    let directory := (start.map (Path.resolve current)).getD current
    let entries ← (paths.map (Path.resolve current) ++ documentPlaces directory).mapM entryAt
    return ⟨current, entries.filterMap id⟩
  | _ => return ⟨current, []⟩

/-- The stack of a command: a thousand nested calls, less those that lead to its configuration. -/
def stack : Stack := .ofCalls 970

def print : Shown → IO Unit
  | .line text _ => IO.println text
  | .table title columns rows => do
    IO.println title
    for row in columns :: rows do
      IO.println (" | ".intercalate row)

end ChainLint.Program

open ChainLint ChainLint.Program in
def main (arguments : List String) : IO UInt32 := do
  let current := (Path.ofString (toString (← IO.currentDir))).toPlace
  let files ←
    match Command.Request.ofArguments arguments with
    | .ok request => filesFor current request
    | .error _ => pure ⟨current, []⟩
  let trace := Command.run stack files.system arguments
  let errors ← IO.getStderr
  for line in trace.logLines do
    errors.putStrLn line
  match trace.outcome with
  | .ok outcome =>
    outcome.shown.forM print
    return outcome.exitCode.toUInt32
  | .error error =>
    errors.putStrLn error.message
    return 1
