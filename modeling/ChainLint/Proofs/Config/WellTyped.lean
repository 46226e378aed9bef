import ChainLint.Proofs.Config.Complaints

/-!
# Which settings are accepted

Every setting has a relation between the value that stands at its key and the field that is read from it
(`AliasesOf`, `PatternOf`, `PluginsOf`). A value that stands in no relation is of the wrong type. A block
is accepted if and only if each of the three values stands in its relation, whatever the others are and
whatever else is in the block.

The block itself is not held to its type in this way: `BlockOf` takes every void value for an empty block,
so that `false`, zero, an empty text and an empty list are accepted where a table belongs
(`false_block_accepted`).
-/

namespace ChainLint

open Config

namespace Settings

variable {stack : Stack} {entries entries' block block' : Table} {value : Value} {s s' : Settings}

/-- The names of the constructor that a value lists. -/
inductive AliasesOf : Value → List String → Prop
  | absent : AliasesOf .null defaultAliases
  | given (names : List String) : AliasesOf (.list (names.map .text)) names.eraseDups

/-- The pattern that a value spells. -/
inductive PatternOf (stack : Stack) : Value → Pattern → Prop
  | absent : PatternOf stack .null defaultPattern
  | given {text : String} {pattern : Pattern} (h : stack.compile text = .ok pattern) :
      PatternOf stack (.text text) pattern

/-- A table that gives every method the name of its kind. -/
def spellKinds (kinds : List (Key × PluginKind)) : Table :=
  kinds.map fun (method, kind) => (method, .text kind.name)

/-- Put the kinds of methods one after another. -/
def putPlugins (plugins : List (String × PluginKind)) (kinds : List (Key × PluginKind)) :
    List (String × PluginKind) :=
  kinds.foldl (fun plugins (method, kind) => putPlugin method.plain kind plugins) plugins

/-- The plugins that a table lists with the names of their kinds. All keys but very long integers are
spelled. -/
inductive PluginsOf : Value → List (String × PluginKind) → Prop
  | absent : PluginsOf .null []
  | given {kinds : List (Key × PluginKind)} (spelled : ∀ entry ∈ kinds, entry.1.isSpelled = true) :
      PluginsOf (.table (spellKinds kinds)) (putPlugins [] kinds)

/-- The settings that a block stands for: each field is given by its own key. -/
structure Means (stack : Stack) (block : Table) (s : Settings) : Prop where
  aliases : AliasesOf (block.get "constructorAliases") s.aliases
  pattern : PatternOf stack (block.get "variablePattern") s.pattern
  plugins : PluginsOf (block.get "collectionReturningPlugins") s.plugins

theorem Means.congr (h : Means stack block s)
    (agree : ∀ name ∈ known, block'.get name = block.get name) : Means stack block' s := by
  refine ⟨?_, ?_, ?_⟩
  · rw [agree _ (by simp [known])]
    exact h.aliases
  · rw [agree _ (by simp [known])]
    exact h.pattern
  · rw [agree _ (by simp [known])]
    exact h.plugins

end Settings

end ChainLint
