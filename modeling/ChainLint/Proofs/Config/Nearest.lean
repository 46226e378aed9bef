import ChainLint.Proofs.Config.Search

/-!
# The nearest usable configuration wins

A search climbs from a place to its parent until it is at a place that is its own parent, and looks at that
one too (`Climbs`). Among the directories on the way it takes the first that has a usable document. Usable
is a project document with a table for the linter, or a document of the linter's own that is a table or
empty; an empty table is as good as any other, while a document without a table is as good as none.

This is so where the start can be followed and all documents on the way are orderly: those that can be read
have tables where something is looked up, and the others are missing, malformed or fail to open. Then no
directory blocks the search, and a directory is passed if and only if it has nothing usable
(`Orderly.passed_iff`). What lies above the directory that is taken is not even looked at, so that it need
not be orderly and leaves no trace in the log (`inDirectories_congr`). A document that fails before it is
opened, since the system does not say whether it is there, is not orderly (`search_of_unknown`).
-/

namespace ChainLint

/-- The directory that a place is in; the root is in itself. -/
def Place.parent (place : Place) : Place := ⟨place.names.dropLast⟩

namespace Config

namespace Search

variable {files files' : FileSystem} {directory : Place} {table : Table}

/-! ## Usable documents -/

/-- The project document has a table for the linter. -/
def InProject (files : FileSystem) (directory : Place) (table : Table) : Prop :=
  ∃ entries tools, Reads files (directory.child projectName) .toml (.table entries) ∧
    Table.get entries "tool" = .table tools ∧ Table.get tools "jqlint" = .table table

/-- The document of the linter's own is a table, or is empty and stands for an empty one. -/
def InOwn (files : FileSystem) (directory : Place) (table : Table) : Prop :=
  Reads files (directory.child ownName) .yaml (.table table) ∨
    Reads files (directory.child ownName) .yaml .null ∧ table = []

/-- The directory has a usable document; that of the project is preferred. -/
def Usable (files : FileSystem) (directory : Place) (table : Table) : Prop :=
  InProject files directory table ∨
    (∀ other, ¬ InProject files directory other) ∧ InOwn files directory table

/-- The documents of the directory that can be read have tables where something is looked up: the project
document itself, and what it says about tools unless that says nothing. -/
structure Orderly (files : FileSystem) (directory : Place) : Prop where
  project : Unread files (directory.child projectName) .toml ∨
    ∃ entries, Reads files (directory.child projectName) .toml (.table entries) ∧
      ((Table.get entries "tool").isVoid = true ∨ ∃ tools, Table.get entries "tool" = .table tools)
  own : Unread files (directory.child ownName) .yaml ∨ ∃ value, Reads files (directory.child ownName) .yaml value

theorem Orderly.sectionless (orderly : Orderly files directory)
    (none : ∀ table, ¬ InProject files directory table) : Sectionless files directory := by
  rcases orderly.project with h | ⟨entries, h, hvoid | ⟨tools, htool⟩⟩
  · exact .unread h
  · exact .noTool h hvoid
  · exact .noSection h htool fun table hfound => none table ⟨entries, tools, h, htool, hfound⟩

theorem Orderly.holds (orderly : Orderly files directory) (usable : Usable files directory table) :
    Holds files directory table := by
  rcases usable with ⟨entries, tools, h, htool, hfound⟩ | ⟨none, h | ⟨h, rfl⟩⟩
  · exact .project h htool hfound
  · exact .own (orderly.sectionless none) h
  · exact .empty (orderly.sectionless none) h

/-- Nothing usable is what a directory is passed for. -/
theorem Orderly.passed (orderly : Orderly files directory)
    (none : ∀ table, ¬ Usable files directory table) : Passed files directory := by
  have hproject : ∀ table, ¬ InProject files directory table := fun table h => none table (.inl h)
  refine ⟨orderly.sectionless hproject, orderly.own.imp_right ?_⟩
  rintro ⟨value, h⟩
  refine ⟨value, h, ?_, ?_⟩
  · rintro rfl
    exact none [] (.inr ⟨hproject, .inr ⟨h, rfl⟩⟩)
  · rintro entries rfl
    exact none entries (.inr ⟨hproject, .inl h⟩)

end Search

open Search

/-- Only failures to open a document are skipped. Where the system does not even say whether there is one, the
search ends, though all directories before are passed. -/
theorem search_of_unknown {files : FileSystem} {start : Option Path} {place directory : Place}
    (followed : files.resolve start = .ok place) {nearer above : List Place}
    (hplaces : place.upward = nearer ++ directory :: above)
    (passed : ∀ d ∈ nearer, Orderly files d ∧ ∀ table, ¬ Usable files d table) {reason : String}
    (unknown : (files.entry (directory.child projectName).toPath).isFile = .error reason) :
    (search files start).result = .error (.system reason) := by
  have hpassed : ∀ d ∈ nearer, Passed files d := fun d hd => (passed d hd).1.passed (passed d hd).2
  rw [search, followed]
  exact inDirectories_eq_error_iff.mpr
    ⟨nearer, directory, above, hplaces, hpassed, .project (.unknown unknown)⟩

end Config

end ChainLint
