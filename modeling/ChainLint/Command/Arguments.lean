import ChainLint.Files.Path

/-!
# Command lines

What a command line asks for. Options begin with a dash: long ones have two, and their value follows them
or an equals sign; short ones can be written together. Two dashes alone end the options. Options for all
commands stand before the name of the command, those of a command anywhere behind it.
-/

namespace ChainLint.Command

inductive UsageError where
  | unknownOption (option : String)
  | valueUnwanted (option : String)
  | valueMissing (option : String)
  | commandMissing
  | unknownCommand (name : String)
  | filesMissing
  | argumentUnwanted (argument : String)
  deriving Repr, DecidableEq

/-- An option as it was given. -/
inductive Given where
  | flag (name : String)
  | value (name text : String)
  deriving Repr, DecidableEq

/-- The options that a part of a command line may hold. -/
structure OptionSet where
  /-- The long options without a value. -/
  flags : List String
  /-- The long options with a value. -/
  valued : List String
  /-- The short options, and the long ones they stand for. -/
  short : List (Char × String)
  /-- Whether options may follow other arguments. -/
  anywhere : Bool
  deriving Repr, DecidableEq

/-- What one argument says. -/
inductive Reading where
  | complete (given : List Given)
  /-- An option whose value is the next argument. -/
  | awaits (name : String)
  deriving Repr, DecidableEq

namespace OptionSet

def isOption (argument : String) : Bool :=
  argument.startsWith "-" && argument.length > 1

/-- The name of a long option, and the value behind an equals sign. -/
def splitValue (argument : String) : String × Option String :=
  let cs := argument.toList
  let name := String.ofList (cs.takeWhile (· != '='))
  match cs.dropWhile (· != '=') with
  | [] => (name, none)
  | _ :: value => (name, some (String.ofList value))

def readShort (o : OptionSet) (argument : String) : Except UsageError (List Given) :=
  (argument.toList.drop 1).mapM fun c =>
    match o.short.lookup c with
    | some name => .ok (.flag name)
    | none => .error (.unknownOption (String.ofList ['-', c]))

/-- What an argument that looks like an option says. -/
def read (o : OptionSet) (argument : String) : Except UsageError Reading :=
  match splitValue argument with
  | (name, value) =>
    if o.flags.contains name then
      match value with
      | none => .ok (.complete [.flag name])
      | some _ => .error (.valueUnwanted name)
    else if o.valued.contains name then
      match value with
      | none => .ok (.awaits name)
      | some text => .ok (.complete [.value name text])
    else if argument.startsWith "--" then .error (.unknownOption name)
    else (o.readShort argument).map .complete

/-- Separate the options from the other arguments. -/
def separate (o : OptionSet) (arguments : List String) :
    Except UsageError (List Given × List String) :=
  match arguments with
  | [] => .ok ([], [])
  | argument :: rest =>
    if argument = "--" then .ok ([], rest)
    else if isOption argument then do
      match ← o.read argument with
      | .complete given =>
        let (more, others) ← o.separate rest
        return (given ++ more, others)
      | .awaits name =>
        match rest with
        | [] => throw (.valueMissing name)
        | text :: rest =>
          let (more, others) ← o.separate rest
          return (.value name text :: more, others)
    else if o.anywhere then do
      let (given, others) ← o.separate rest
      return (given, argument :: others)
    else .ok ([], argument :: rest)

end OptionSet

/-! ## The commands -/

/-- What a command line asks for. -/
inductive Request where
  | help
  | check (verbose : Bool) (files : List Path) (start : Option Path)
  | rules (verbose : Bool)
  deriving Repr, DecidableEq

namespace Request

def helpFlag : String := "--help"

def verboseFlag : String := "--verbose"

/-- The option that says where to look for a configuration. -/
def startOption : String := "--config-dir"

def commonOptions : OptionSet := ⟨[helpFlag, verboseFlag], [], [('v', verboseFlag)], false⟩

def checkOptions : OptionSet := ⟨[helpFlag], [startOption], [], true⟩

def rulesOptions : OptionSet := ⟨[helpFlag], [], [], true⟩

/-- The value of an option; the last one given counts. -/
def valueOf? (name : String) (given : List Given) : Option String :=
  (given.filterMap fun
    | .value n text => if n = name then some text else none
    | .flag _ => none).getLast?

def ofCheck (verbose : Bool) (arguments : List String) : Except UsageError Request := do
  let (given, files) ← checkOptions.separate arguments
  if given.contains (.flag helpFlag) then return .help
  else if files.isEmpty then throw .filesMissing
  else
    return .check verbose (files.map Path.ofString) ((valueOf? startOption given).map Path.ofString)

def ofRules (verbose : Bool) (arguments : List String) : Except UsageError Request := do
  let (given, others) ← rulesOptions.separate arguments
  if given.contains (.flag helpFlag) then return .help
  else
    match others with
    | [] => return .rules verbose
    | argument :: _ => throw (.argumentUnwanted argument)

/-- The request of a command line. Where a command should stand, options that two dashes have made
ordinary arguments are read once more, so that help can still be asked for. -/
def ofArguments (arguments : List String) : Except UsageError Request := do
  let (given, rest) ← commonOptions.separate arguments
  let verbose := given.contains (.flag verboseFlag)
  if given.contains (.flag helpFlag) then return .help
  else
    match rest with
    | [] => throw .commandMissing
    | "check" :: more => ofCheck verbose more
    | "rules" :: more => ofRules verbose more
    | name :: _ =>
      let (again, _) ← commonOptions.separate rest
      if again.contains (.flag helpFlag) then return .help else throw (.unknownCommand name)

end Request

end ChainLint.Command
