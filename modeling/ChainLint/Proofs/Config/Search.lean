import ChainLint.Config.Search
import ChainLint.Proofs.Except

/-!
# How a search for a configuration ends

The first directory that is not passed decides. `Passed`, `Holds` and `Blocked` say of one directory
that its two documents are skipped, that one of them is the configuration, or that one of them ends
the search with an error; every directory is in one of the three cases (`directory_cases`), and its
result tells which (`inDirectory_eq_iff`). The search goes along the directories by induction
(`inDirectories_eq_ok_iff`, `inDirectories_eq_error_iff`).

So a search has an answer whenever its start can be followed and no directory on the way is blocked
(`search_result_iff`). A document that is missing, cannot be opened or is malformed does not block a
directory. One whose bytes are no text does, and so does a project document with a `tool` that is neither
void nor a table, and a document of which the system does not say whether it is there.
-/

namespace ChainLint.Config

open Text

namespace Search

variable {files : FileSystem} {place directory : Place} {format : Format}

/-! ## One document -/

/-- There is no document, or it cannot be opened or is malformed. -/
inductive Unread (files : FileSystem) (place : Place) (format : Format) : Prop
  | missing (h : (files.entry place.toPath).isFile = .ok false)
  | unreadable {reason : String} (file : (files.entry place.toPath).isFile = .ok true)
      (h : (files.entry place.toPath).content format = .unreadable reason)

/-- The document has been read, and holds a value. -/
structure Reads (files : FileSystem) (place : Place) (format : Format) (value : Value) : Prop where
  file : (files.entry place.toPath).isFile = .ok true
  content : (files.entry place.toPath).content format = .document value

/-- The system does not say whether there is a document, or its bytes are no text. -/
inductive Fails (files : FileSystem) (place : Place) (format : Format) : SearchError → Prop
  | unknown {reason : String} (h : (files.entry place.toPath).isFile = .error reason) :
      Fails files place format (.system reason)
  | undecodable {error : Utf8.DecodeError} (file : (files.entry place.toPath).isFile = .ok true)
      (h : (files.entry place.toPath).content format = .notText error) :
      Fails files place format (.notText error)

theorem document?_of_unread (h : Unread files place format) :
    (document? files place format).result = .ok none := by
  cases h with
  | missing h => simp [document?, h]
  | unreadable file h => simp [document?, file, h, noteUnreadable, Except.map]

theorem document?_of_reads {value : Value} (h : Reads files place format value) :
    (document? files place format).result = .ok (some value) := by
  simp [document?, h.file, h.content]

theorem document?_of_fails {error : SearchError} (h : Fails files place format error) :
    (document? files place format).result = .error error := by
  cases h with
  | unknown h => simp [document?, h]
  | undecodable file h => simp [document?, file, h]

theorem document_cases (files : FileSystem) (place : Place) (format : Format) :
    Unread files place format ∨ (∃ value, Reads files place format value) ∨
      ∃ error, Fails files place format error := by
  match file : (files.entry place.toPath).isFile with
  | .error reason => exact .inr (.inr ⟨_, .unknown file⟩)
  | .ok false => exact .inl (.missing file)
  | .ok true =>
      match h : (files.entry place.toPath).content format with
      | .document value => exact .inr (.inl ⟨value, file, h⟩)
      | .unreadable reason => exact .inl (.unreadable file h)
      | .notText error => exact .inr (.inr ⟨_, .undecodable file h⟩)

/-! ## One directory -/

/-- Something other than a table. -/
def NoTable (value : Value) : Prop := ∀ entries, value ≠ .table entries

theorem table_or_noTable (value : Value) : (∃ entries, value = .table entries) ∨ NoTable value := by
  cases value with
  | table entries => exact .inl ⟨entries, rfl⟩
  | _ => exact .inr (fun _ h => nomatch h)

/-- The project document has no section for the linter. -/
inductive Sectionless (files : FileSystem) (directory : Place) : Prop
  | unread (h : Unread files (directory.child projectName) .toml)
  | noTool {entries : Table} (h : Reads files (directory.child projectName) .toml (.table entries))
      (void : (Table.get entries "tool").isVoid)
  | noSection {entries tools : Table} (h : Reads files (directory.child projectName) .toml (.table entries))
      (tool : Table.get entries "tool" = .table tools) (none : NoTable (Table.get tools "jqlint"))

/-- The configuration of the directory. -/
inductive Holds (files : FileSystem) (directory : Place) : Table → Prop
  | project {entries tools table : Table}
      (h : Reads files (directory.child projectName) .toml (.table entries))
      (tool : Table.get entries "tool" = .table tools)
      (found : Table.get tools "jqlint" = .table table) : Holds files directory table
  | empty (project : Sectionless files directory) (h : Reads files (directory.child ownName) .yaml .null) :
      Holds files directory []
  | own {table : Table} (project : Sectionless files directory)
      (h : Reads files (directory.child ownName) .yaml (.table table)) : Holds files directory table

/-- The directory has no configuration, and what it has instead is skipped. -/
structure Passed (files : FileSystem) (directory : Place) : Prop where
  project : Sectionless files directory
  own : Unread files (directory.child ownName) .yaml ∨
    ∃ value, Reads files (directory.child ownName) .yaml value ∧ value ≠ .null ∧ NoTable value

/-- The search ends at the directory with an error. -/
inductive Blocked (files : FileSystem) (directory : Place) : SearchError → Prop
  | project {error : SearchError} (h : Fails files (directory.child projectName) .toml error) :
      Blocked files directory error
  | top {value : Value} (h : Reads files (directory.child projectName) .toml value) (top : NoTable value) :
      Blocked files directory (.noLookup value.typeName)
  | tool {entries : Table} (h : Reads files (directory.child projectName) .toml (.table entries))
      (filled : (Table.get entries "tool").isVoid = false) (tool : NoTable (Table.get entries "tool")) :
      Blocked files directory (.noLookup (Table.get entries "tool").typeName)
  | own {error : SearchError} (project : Sectionless files directory)
      (h : Fails files (directory.child ownName) .yaml error) : Blocked files directory error

theorem lookUp_noTable {value : Value} (h : NoTable value) (name : String) :
    lookUp value name = .error (.noLookup value.typeName) := by
  cases value with
  | table entries => exact absurd rfl (h entries)
  | _ => rfl

theorem not_isVoid_of_get {tools : Table} {name : String} {value : Value}
    (h : Table.get tools name = value) (hvalue : value ≠ .null) :
    (Value.table tools).isVoid = false := by
  cases tools with
  | nil => exact absurd h.symm hvalue
  | cons => rfl

theorem inProject_result (files : FileSystem) (directory : Place) :
    (inProject files directory).result =
      (document? files (directory.child projectName) .toml).result >>= fun
        | none => .ok none
        | some value => section? value := by
  rw [inProject, Attempt.result_bind]
  congr 1
  funext value?
  match value? with
  | none => rfl
  | some value =>
      show _ = section? value
      rw [Attempt.result_bind, Attempt.result_lift]
      match section? value with
      | .error e => rfl
      | .ok none => rfl
      | .ok (some table) => rfl

theorem inOwn_of_reads {value : Value} (h : Reads files (directory.child ownName) .yaml value) :
    (inOwn files directory).result =
      .ok (match value with
        | .null => some []
        | .table entries => some entries
        | _ => none) := by
  rw [inOwn, Attempt.result_bind, document?_of_reads h]
  cases value <;> rfl

theorem section?_noTable {value : Value} (h : NoTable value) : section? value =
    .error (.noLookup value.typeName) := by
  rw [section?, lookUp_noTable h]
  rfl

theorem section?_table (entries : Table) : section? (.table entries) =
      if (Table.get entries "tool").isVoid then .ok none
      else lookUp (Table.get entries "tool") "jqlint" >>= fun
        | .table table => .ok (some table)
        | _ => .ok none := rfl

theorem inProject_of_sectionless (h : Sectionless files directory) :
    (inProject files directory).result = .ok none := by
  rw [inProject_result]
  cases h with
  | unread h => rw [document?_of_unread h, ok_bind]
  | noTool h void =>
      rw [document?_of_reads h, ok_bind]
      exact (section?_table _).trans (if_pos void)
  | @noSection entries tools h tool none =>
      rw [document?_of_reads h, ok_bind]
      show section? (.table entries) = _
      rw [section?_table, tool]
      split
      · rfl
      · show (match Table.get tools "jqlint" with
          | .table table => _
          | _ => _) = _
        split
        · exact absurd ‹_› (none _)
        · rfl

theorem inDirectory_of_sectionless (h : Sectionless files directory) :
    (inDirectory files directory).result = (inOwn files directory).result := by
  rw [inDirectory, Attempt.result_bind, inProject_of_sectionless h, ok_bind]

theorem inDirectory_of_holds {table : Table} (h : Holds files directory table) :
    (inDirectory files directory).result = .ok (some table) := by
  cases h with
  | @project entries tools table h tool found =>
      have hfilled : (Value.table tools).isVoid = false := not_isVoid_of_get found (by simp)
      rw [inDirectory, Attempt.result_bind, inProject_result, document?_of_reads h, ok_bind]
      show section? (.table entries) >>= _ = _
      rw [section?_table, tool, if_neg (by rw [hfilled]; exact Bool.false_ne_true), lookUp, ok_bind,
        found]
      rfl
  | empty project h => rw [inDirectory_of_sectionless project, inOwn_of_reads h]
  | own project h => rw [inDirectory_of_sectionless project, inOwn_of_reads h]

theorem inDirectory_of_passed (h : Passed files directory) :
    (inDirectory files directory).result = .ok none := by
  rw [inDirectory_of_sectionless h.project]
  rcases h.own with hown | ⟨value, hown, hnull, hvalue⟩
  · rw [inOwn, Attempt.result_bind, document?_of_unread hown]
    rfl
  · rw [inOwn_of_reads hown]
    cases value with
    | null => exact absurd rfl hnull
    | table entries => exact absurd rfl (hvalue entries)
    | _ => rfl

theorem inDirectory_of_blocked {error : SearchError} (h : Blocked files directory error) :
    (inDirectory files directory).result = .error error := by
  cases h with
  | project h =>
      rw [inDirectory, Attempt.result_bind, inProject_result, document?_of_fails h]
      rfl
  | @top value h top =>
      rw [inDirectory, Attempt.result_bind, inProject_result, document?_of_reads h, ok_bind]
      show section? value >>= _ = _
      rw [section?_noTable top]
      rfl
  | @tool entries h filled tool =>
      rw [inDirectory, Attempt.result_bind, inProject_result, document?_of_reads h, ok_bind]
      show section? (.table entries) >>= _ = _
      rw [section?_table, if_neg (by rw [filled]; exact Bool.false_ne_true), lookUp_noTable tool]
      rfl
  | own project h =>
      rw [inDirectory_of_sectionless project, inOwn, Attempt.result_bind, document?_of_fails h]
      rfl

theorem project_cases (files : FileSystem) (directory : Place) :
    Sectionless files directory ∨ (∃ table, Holds files directory table) ∨
      ∃ error, Blocked files directory error := by
  rcases document_cases files (directory.child projectName) .toml with h | ⟨value, h⟩ | ⟨error, h⟩
  · exact .inl (.unread h)
  · rcases table_or_noTable value with ⟨entries, rfl⟩ | top
    · cases hvoid : (Table.get entries "tool").isVoid with
      | true => exact .inl (.noTool h hvoid)
      | false =>
          rcases table_or_noTable (Table.get entries "tool") with ⟨tools, htool⟩ | tool
          · rcases table_or_noTable (Table.get tools "jqlint") with ⟨table, hfound⟩ | none
            · exact .inr (.inl ⟨table, .project h htool hfound⟩)
            · exact .inl (.noSection h htool none)
          · exact .inr (.inr ⟨_, .tool h hvoid tool⟩)
    · exact .inr (.inr ⟨_, .top h top⟩)
  · exact .inr (.inr ⟨_, .project h⟩)

/-- Every directory is passed, holds the configuration, or ends the search. -/
theorem directory_cases (files : FileSystem) (directory : Place) :
    Passed files directory ∨ (∃ table, Holds files directory table) ∨
      ∃ error, Blocked files directory error := by
  rcases project_cases files directory with project | decided
  · rcases document_cases files (directory.child ownName) .yaml with h | ⟨value, h⟩ | ⟨error, h⟩
    · exact .inl ⟨project, .inl h⟩
    · rcases table_or_noTable value with ⟨table, rfl⟩ | hvalue
      · exact .inr (.inl ⟨table, .own project h⟩)
      · by_cases hnull : value = .null
        · subst hnull
          exact .inr (.inl ⟨[], .empty project h⟩)
        · exact .inl ⟨project, .inr ⟨value, h, hnull, hvalue⟩⟩
    · exact .inr (.inr ⟨_, .own project h⟩)
  · exact .inr decided

/-- What the directory is if the search in it has this result. -/
def Outcome (files : FileSystem) (directory : Place) : Except SearchError (Option Table) → Prop
  | .ok none => Passed files directory
  | .ok (some table) => Holds files directory table
  | .error error => Blocked files directory error

theorem inDirectory_of_outcome {found : Except SearchError (Option Table)}
    (h : Outcome files directory found) : (inDirectory files directory).result = found := by
  match found with
  | .ok none => exact inDirectory_of_passed h
  | .ok (some table) => exact inDirectory_of_holds h
  | .error error => exact inDirectory_of_blocked h

/-- The result tells what the directory is, since it is one of the three and each has its own result. -/
theorem inDirectory_eq_iff {found : Except SearchError (Option Table)} :
    (inDirectory files directory).result = found ↔ Outcome files directory found := by
  refine ⟨?_, inDirectory_of_outcome⟩
  rintro rfl
  rcases directory_cases files directory with passed | ⟨table, holds⟩ | ⟨error, blocked⟩
  · rw [inDirectory_of_passed passed]
    exact passed
  · rw [inDirectory_of_holds holds]
    exact holds
  · rw [inDirectory_of_blocked blocked]
    exact blocked

theorem inDirectory_eq_none_iff :
    (inDirectory files directory).result = .ok none ↔ Passed files directory :=
  inDirectory_eq_iff

theorem inDirectory_eq_some_iff {table : Table} :
    (inDirectory files directory).result = .ok (some table) ↔ Holds files directory table :=
  inDirectory_eq_iff

theorem inDirectory_eq_error_iff {error : SearchError} :
    (inDirectory files directory).result = .error error ↔ Blocked files directory error :=
  inDirectory_eq_iff

theorem not_passed_of_result {found : Except SearchError (Option Table)}
    (h : (inDirectory files directory).result = found) (hfound : found ≠ .ok none) :
    ¬ Passed files directory :=
  fun passed => hfound (h.symm.trans (inDirectory_of_passed passed))

/-! ## All directories -/

/-- The first directory that is not passed satisfies a condition. -/
def First (files : FileSystem) (P : Place → Prop) (places : List Place) : Prop :=
  ∃ before directory after, places = before ++ directory :: after ∧
    (∀ d ∈ before, Passed files d) ∧ P directory

variable {P : Place → Prop} {places : List Place}

theorem not_first_nil : ¬ First files P [] := by
  rintro ⟨before, directory, after, h, -⟩
  cases before <;> cases h

theorem first_cons_of_passed (h : Passed files directory) (hP : ¬ P directory) :
    First files P (directory :: places) ↔ First files P places := by
  constructor
  · rintro ⟨before, d, after, hplaces, hpassed, hd⟩
    match before with
    | [] =>
        obtain ⟨rfl, -⟩ := List.cons.inj hplaces
        exact absurd hd hP
    | b :: before =>
        obtain ⟨-, rfl⟩ := List.cons.inj hplaces
        exact ⟨before, d, after, rfl, fun d' hd' => hpassed d' (List.mem_cons_of_mem _ hd'), hd⟩
  · rintro ⟨before, d, after, rfl, hpassed, hd⟩
    exact ⟨directory :: before, d, after, rfl, List.forall_mem_cons.mpr ⟨h, hpassed⟩, hd⟩

theorem first_cons_of_not_passed (h : ¬ Passed files directory) :
    First files P (directory :: places) ↔ P directory := by
  constructor
  · rintro ⟨before, d, after, hplaces, hpassed, hd⟩
    match before with
    | [] =>
        obtain ⟨rfl, -⟩ := List.cons.inj hplaces
        exact hd
    | b :: before =>
        obtain ⟨rfl, -⟩ := List.cons.inj hplaces
        exact absurd (hpassed _ (List.mem_cons_self ..)) h
  · intro hd
    exact ⟨[], directory, places, rfl, by simp, hd⟩

theorem inDirectories_cons (files : FileSystem) (directory : Place) (places : List Place) :
    (inDirectories files (directory :: places)).result =
      (inDirectory files directory).result >>= fun
        | some table => .ok table
        | none => (inDirectories files places).result := by
  rw [inDirectories, Attempt.result_bind]
  congr 1
  funext found
  cases found <;> rfl

theorem inDirectories_eq_ok_iff {table : Table} :
    (inDirectories files places).result = .ok table ↔
      First files (Holds files · table) places ∨ (∀ d ∈ places, Passed files d) ∧ table = [] := by
  induction places with
  | nil => simp [inDirectories, not_first_nil, eq_comm]
  | cons directory places ih =>
      rw [inDirectories_cons]
      match hdirectory : (inDirectory files directory).result with
      | .ok none =>
          have passed := inDirectory_eq_none_iff.mp hdirectory
          have hholds : ¬ Holds files directory table := by
            rw [← inDirectory_eq_some_iff, hdirectory]
            simp
          rw [first_cons_of_passed passed hholds, List.forall_mem_cons]
          simpa [passed] using ih
      | .ok (some table') =>
          have hpassed := not_passed_of_result hdirectory (by simp)
          rw [first_cons_of_not_passed hpassed, ← inDirectory_eq_some_iff, hdirectory]
          simp [hpassed]
      | .error error =>
          have hpassed := not_passed_of_result hdirectory (by simp)
          rw [first_cons_of_not_passed hpassed, ← inDirectory_eq_some_iff, hdirectory]
          simp [hpassed]

theorem inDirectories_eq_error_iff {error : SearchError} :
    (inDirectories files places).result = .error error ↔
      First files (Blocked files · error) places := by
  induction places with
  | nil => simp [inDirectories, not_first_nil]
  | cons directory places ih =>
      rw [inDirectories_cons]
      match hdirectory : (inDirectory files directory).result with
      | .ok none =>
          have passed := inDirectory_eq_none_iff.mp hdirectory
          have hblocked : ¬ Blocked files directory error := by
            rw [← inDirectory_eq_error_iff, hdirectory]
            simp
          rw [first_cons_of_passed passed hblocked]
          simpa using ih
      | .ok (some table) =>
          have hpassed := not_passed_of_result hdirectory (by simp)
          rw [first_cons_of_not_passed hpassed, ← inDirectory_eq_error_iff, hdirectory]
          simp
      | .error error' =>
          have hpassed := not_passed_of_result hdirectory (by simp)
          rw [first_cons_of_not_passed hpassed, ← inDirectory_eq_error_iff, hdirectory]
          simp

end Search

open Search

/-- A search that cannot follow its start ends there. Every other one ends at the first directory that is
not passed: with the configuration that this directory holds, or with the error that blocks it. If all are
passed the configuration is empty. -/
theorem search_result_iff (files : FileSystem) (start : Option Path) :
    (∀ table, (search files start).result = .ok table ↔
      ∃ place, files.resolve start = .ok place ∧
        (First files (Holds files · table) place.upward ∨
          (∀ d ∈ place.upward, Passed files d) ∧ table = [])) ∧
    ∀ error, (search files start).result = .error error ↔
      (∃ reason, files.resolve start = .error reason ∧ error = .system reason) ∨
        ∃ place, files.resolve start = .ok place ∧ First files (Blocked files · error) place.upward := by
  unfold search
  cases files.resolve start with
  | error reason => simp [eq_comm]
  | ok place => simp [inDirectories_eq_ok_iff, inDirectories_eq_error_iff]

/-- A file whose bytes are no text. -/
def stray : FileEntry := .notText ⟨0, 1, 0xff, .startByte⟩

/-- Why the system does not say whether there is a file. -/
def hidden : String := "[Errno 13] Permission denied: '/hidden/pyproject.toml'"

/-- Bytes that are no text, a `tool` that is a number, and a place that the system does not show, each
below a directory with a usable document. -/
def unusableFiles : FileSystem :=
  FileTable.system ⟨.root,
    [(⟨["bytes", projectName]⟩, stray),
      (⟨["number", projectName]⟩, FileEntry.document (.document (.table [(.text "tool", .integer 5)]))),
      (⟨["hidden", projectName]⟩, { stray with isFile := .error hidden }),
      (⟨[ownName]⟩, FileEntry.document (.document (.table [(.text "rules", .table [])])))]⟩

/-- A document that cannot be used is not skipped in these three cases, although the next directory holds
a configuration. -/
theorem search_blocked_below_usable :
    (inDirectory unusableFiles .root).result = .ok (some [(.text "rules", .table [])]) ∧
      (search unusableFiles (some ⟨some .single, ["bytes"]⟩)).result =
        .error (.notText ⟨0, 1, 0xff, .startByte⟩) ∧
      (search unusableFiles (some ⟨some .single, ["number"]⟩)).result = .error (.noLookup "int") ∧
      (search unusableFiles (some ⟨some .single, ["hidden"]⟩)).result =
        .error (.system hidden) := by
  exact ⟨rfl, rfl, rfl, rfl⟩

end ChainLint.Config
