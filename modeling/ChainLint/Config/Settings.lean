import ChainLint.Log
import ChainLint.Stack
import ChainLint.Text.Order

/-!
# Settings

What the rules of a run share: the names of the collection constructor, the pattern of variables that
hold collections, and how calls of plugin methods are to be understood. They come from the block
`no-jquery` of the settings table; a setting that is absent or null has its default, and unknown settings
are reported and otherwise ignored.

`ConfigError` lists everything that can be wrong with a configuration. Most of it is a complaint about
the document (`ConfigError.isComplaint`), which a command answers with one line; the others are
operations that the values of a document do not support, or that the stack has no room for.
-/

namespace ChainLint

open Config Text

/-! ## Errors -/

/-- Why a configuration is not accepted. -/
inductive ConfigError where
  /-- The settings are neither void nor a table, so that no block can be looked up in them. -/
  | noLookup (typeName : String)
  | blockNotTable (typeName : String)
  /-- Unknown keys of two types that have no common order cannot be listed. -/
  | keysWithoutOrder (typeName other : String)
  /-- Unknown keys that are no texts cannot be joined to a list. -/
  | keyNotText (typeName : String)
  | aliasesNotTexts
  | patternNotText
  | patternMalformed (text : String) (problem : Pattern.Problem) (position : Option Nat)
  | patternCountTooLarge
  | patternEscapeTooLarge
  | patternCountTooLong (digits : Nat)
  | patternAlphabetConflict
  | patternTooDeep
  | pluginsNotTable
  | pluginKind (method : Key) (value : Value)
  /-- A value that is no plugin kind is nested too deep to be shown. -/
  | valueTooDeep
  /-- A key or a value that is to be spelled has an integer of too many digits in it. -/
  | integerTooLong
  | settingsNotTable
  | rulesNotTable
  | ruleEntry (rule : Key)
  /-- A configuration that is no table and no list of entries. -/
  | documentNotEntries (typeName : String)
  | entryNotPair (index : Nat)
  | entryLength (index length : Nat)
  | keyNotPlain (typeName : String)
  deriving Repr

namespace ConfigError

/-- The error of a pattern that was rejected. -/
def ofRejection (text : String) : Pattern.Rejection → ConfigError
  | .malformed problem position => .patternMalformed text problem position
  | .countTooLarge => .patternCountTooLarge
  | .escapeTooLarge => .patternEscapeTooLarge
  | .countTooLong digits => .patternCountTooLong digits
  | .alphabetConflict => .patternAlphabetConflict
  | .tooDeep => .patternTooDeep

def message : ConfigError → String
  | .noLookup typeName => "'" ++ typeName ++ "' object has no attribute 'get'"
  | .blockNotTable typeName => "settings.no-jquery must be a table, got " ++ typeName
  | .keysWithoutOrder typeName other =>
    "'<' not supported between instances of '" ++ typeName ++ "' and '" ++ other ++ "'"
  | .keyNotText typeName => "sequence item 0: expected str instance, " ++ typeName ++ " found"
  | .aliasesNotTexts => "constructorAliases must be a list of strings"
  | .patternNotText => "variablePattern must be a regular expression string"
  | .patternMalformed text problem position =>
    "variablePattern " ++ Quoted.quote text ++ " is not a valid regex: " ++
      problem.render position text.toList
  | .patternCountTooLarge => "the repetition number is too large"
  | .patternEscapeTooLarge => "code point too large"
  | .patternCountTooLong digits =>
    "Exceeds the limit (4300 digits) for integer string conversion: value has " ++
      toString digits ++ " digits; use sys.set_int_max_str_digits() to increase the limit"
  | .patternAlphabetConflict => "ASCII and UNICODE flags are incompatible"
  | .patternTooDeep => "maximum recursion depth exceeded"
  | .pluginsNotTable => "collectionReturningPlugins must be a table"
  | .pluginKind method value =>
    "collectionReturningPlugins." ++ method.plain ++
      ": expected one of never, accessor, valueAccessor, got " ++ value.render
  | .valueTooDeep => "maximum recursion depth exceeded while getting the repr of an object"
  | .integerTooLong =>
    "Exceeds the limit (4300 digits) for integer string conversion; " ++
      "use sys.set_int_max_str_digits() to increase the limit"
  | .settingsNotTable => "settings must be a table"
  | .rulesNotTable => "rules must be a table"
  | .ruleEntry rule => "rules." ++ rule.plain ++ " must be true, false or an options table"
  | .documentNotEntries typeName => "'" ++ typeName ++ "' object is not iterable"
  | .entryNotPair index =>
    "cannot convert dictionary update sequence element #" ++ toString index ++ " to a sequence"
  | .entryLength index length =>
    "dictionary update sequence element #" ++ toString index ++ " has length " ++
      toString length ++ "; 2 is required"
  | .keyNotPlain typeName => "unhashable type: '" ++ typeName ++ "'"

/-- Whether the error is a complaint about what the document says. -/
def isComplaint : ConfigError → Bool
  | .blockNotTable _ | .aliasesNotTexts | .patternNotText | .patternMalformed ..
  | .patternCountTooLong _ | .patternAlphabetConflict | .pluginsNotTable | .pluginKind ..
  | .integerTooLong | .settingsNotTable | .rulesNotTable | .ruleEntry _ | .entryLength .. => true
  | .noLookup _ | .keysWithoutOrder .. | .keyNotText _ | .patternCountTooLarge
  | .patternEscapeTooLarge | .patternTooDeep | .valueTooDeep | .documentNotEntries _
  | .entryNotPair _ | .keyNotPlain _ => false

end ConfigError

/-! ## Plugins -/

/-- When a call of a plugin method does not return a collection. -/
inductive PluginKind where
  | never
  /-- When it is called without arguments. -/
  | accessor
  /-- When it is called without arguments, or with one that is no object literal. -/
  | valueAccessor
  deriving Repr, DecidableEq

namespace PluginKind

def name : PluginKind → String
  | .never => "never"
  | .accessor => "accessor"
  | .valueAccessor => "valueAccessor"

def ofName? : String → Option PluginKind
  | "never" => some .never
  | "accessor" => some .accessor
  | "valueAccessor" => some .valueAccessor
  | _ => none

end PluginKind

/-! ## Settings -/

/-- The settings of a run. -/
structure Settings where
  aliases : List String
  pattern : Pattern
  plugins : List (String × PluginKind)
  deriving Repr, DecidableEq

/-- What the classifier asks about names. -/
structure Vocabulary where
  /-- Whether a name stands for the collection constructor. -/
  isAlias : String → Bool
  /-- Whether a variable of this name holds a collection. -/
  isVariable : String → Bool
  /-- How calls of a plugin method are to be understood. -/
  plugin? : String → Option PluginKind

namespace Settings

def defaultAliases : List String := ["$", "jQuery"]

/-- The default pattern: a dollar sign in front of the name, with something after it. -/
def defaultPattern : Pattern :=
  .ofExpression "^\\$." ⟨.seq (.anchor .lineStart) (.seq (.point '$'.toNat) .any), [], 2⟩

/-- The settings of an empty configuration. -/
def standard : Settings := ⟨defaultAliases, defaultPattern, []⟩

/-- The settings as the classifier sees them. -/
def vocabulary (s : Settings) : Vocabulary where
  isAlias name := s.aliases.contains name
  isVariable name := s.pattern.search name
  plugin? method := (s.plugins.find? (·.1 == method)).map (·.2)

/-! ## Reading settings -/

/-- The name of the block that the settings stand in. -/
def blockName : String := "no-jquery"

/-- The settings that there are. -/
def known : List String := ["constructorAliases", "variablePattern", "collectionReturningPlugins"]

/-- The first two neighbours among keys that have no common order. -/
def unordered? : List Key → Option (Key × Key)
  | a :: b :: rest =>
    match a, b with
    | .text _, .text _ => unordered? (b :: rest)
    | _, _ =>
      if a.number?.isSome && b.number?.isSome then unordered? (b :: rest) else some (a, b)
  | _ => none

/-- The texts among keys. -/
def texts (keys : List Key) : List String :=
  keys.filterMap fun
    | .text s => some s
    | _ => none

/-- The first of some numeric keys in their order. -/
def leastNumber (first : Key) (others : List Key) : Key :=
  others.foldl (fun least key =>
    match key.number?, least.number? with
    | some x, some y => if y.le x then least else key
    | _, _ => least) first

/-- The unknown keys of a block in order, if they can be listed. -/
def unknownNames (block : Table) : Except ConfigError (List String) :=
  let keys := (block.map (·.1)).filter fun
    | .text s => !known.contains s
    | _ => true
  match unordered? keys with
  | some (a, b) => .error (.keysWithoutOrder b.typeName a.typeName)
  | none =>
    match keys with
    | [] => .ok []
    | .text _ :: _ => .ok (sorted (texts keys))
    | first :: others => .error (.keyNotText (leastNumber first others).typeName)

/-- Note the unknown keys of a block, if there are any. -/
def noteUnknown (names : List String) : Attempt ConfigError Unit :=
  if names.isEmpty then return ()
  else
    Attempt.note .warning .root
      ("Configuration Warning: unknown " ++ blockName ++ " settings ignored: " ++
        ", ".intercalate names)

/-- The names of the constructor: a list of texts, in which repetitions do not matter. -/
def readAliases : Value → Except ConfigError (List String)
  | .null => .ok defaultAliases
  | .list items =>
    let names := items.mapM fun
      | .text s => some s
      | _ => none
    match names with
    | some names => .ok names.eraseDups
    | none => .error .aliasesNotTexts
  | _ => .error .aliasesNotTexts

def readPattern (stack : Stack) : Value → Except ConfigError Pattern
  | .null => .ok defaultPattern
  | .text s => (stack.compile s).mapError (ConfigError.ofRejection s)
  | _ => .error .patternNotText

/-- Replace the kind of a method, or add it at the end. -/
def putPlugin (method : String) (kind : PluginKind) :
    List (String × PluginKind) → List (String × PluginKind)
  | [] => [(method, kind)]
  | (m, k) :: rest => if m = method then (m, kind) :: rest else (m, k) :: putPlugin method kind rest

/-- The kind that a value names. -/
def kindOf? : Value → Option PluginKind
  | .text name => PluginKind.ofName? name
  | _ => none

/-- Why an entry whose value names no kind is refused: the complaint spells its key and shows its value. -/
def kindError (stack : Stack) (method : Key) (value : Value) : ConfigError :=
  if !stack.shows value then .valueTooDeep
  else if method.isSpelled && value.isSpelled then .pluginKind method value
  else .integerTooLong

/-- The kinds of plugin methods, entry by entry; a later entry replaces one of the same spelling. -/
def readPluginEntries (stack : Stack) :
    List (String × PluginKind) → Table → Except ConfigError (List (String × PluginKind))
  | plugins, [] => .ok plugins
  | plugins, (method, value) :: rest =>
    match kindOf? value with
    | some kind =>
      if method.isSpelled then readPluginEntries stack (putPlugin method.plain kind plugins) rest
      else .error .integerTooLong
    | none => .error (kindError stack method value)

def readPlugins (stack : Stack) : Value → Except ConfigError (List (String × PluginKind))
  | .null => .ok []
  | .table entries => readPluginEntries stack [] entries
  | _ => .error .pluginsNotTable

/-- The block of a settings table; a void block counts as an empty one. -/
def readBlock (settings : Value) : Except ConfigError Table :=
  if settings.isVoid then .ok []
  else
    match settings with
    | .table entries =>
      let block := Table.get entries blockName
      if block.isVoid then .ok []
      else
        match block with
        | .table entries => .ok entries
        | other => .error (.blockNotTable other.typeName)
    | other => .error (.noLookup other.typeName)

def ofValue (stack : Stack) (settings : Value) : Attempt ConfigError Settings := do
  let block ← readBlock settings
  noteUnknown (← unknownNames block)
  let aliases ← readAliases (block.get "constructorAliases")
  let pattern ← readPattern stack (block.get "variablePattern")
  let plugins ← readPlugins stack (block.get "collectionReturningPlugins")
  return ⟨aliases, pattern, plugins⟩

end Settings

end ChainLint
