import ChainLint.Concrete.Script
import ChainLint.Config.Value
import ChainLint.Files.Path
import ChainLint.Text.Quoted

/-!
# File systems

What a run asks of its files. The system follows the start of a search to a place and says of a path
whether a file is there; either may fail, for example at a directory that may not be searched. A file is
read as a script, or as a configuration document by the reader of a format. Opening it may fail, its
bytes may be no text, and a document may be malformed; readers fail in no other way.

A `FileSystem` answers these questions as it likes. That of a `FileTable` has the files of a list and
follows paths by their names alone; there is nothing in it that may not be searched.
-/

namespace ChainLint

open Text

/-- A format of configuration documents. -/
inductive Format where
  | toml
  | yaml
  deriving Repr, DecidableEq

/-- What the reader of a format makes of a file. -/
inductive Content where
  | document (value : Config.Value)
  /-- The file cannot be opened, or it is not well formed. -/
  | unreadable (reason : String)
  /-- The bytes of the file are no text. -/
  | notText (error : Utf8.DecodeError)
  deriving Repr

/-- Why a file cannot be read. -/
inductive ReadError where
  | missing
  | isDirectory
  | locked (reason : String)
  | notText (error : Utf8.DecodeError)
  deriving Repr, DecidableEq

/-- What is wrong, in words, given the path at which it is. -/
def ReadError.message (path : Path) : ReadError → String
  | .missing => "[Errno 2] No such file or directory: " ++ Quoted.quote path.render
  | .isDirectory => "[Errno 21] Is a directory: " ++ Quoted.quote path.render
  | .locked reason => reason
  | .notText error => error.message

/-- What is found at the end of a path. -/
structure FileEntry where
  /-- Whether a file is there, or why the system does not say so. -/
  isFile : Except String Bool
  content : Format → Content
  /-- The text of the file, with the tree that the parser makes of it. -/
  script : Except ReadError Script

/-- The answers of a system about its files. -/
structure FileSystem where
  /-- The place of a directory, or of the current one; or why it cannot be followed. -/
  resolve : Option Path → Except String Place
  entry : Path → FileEntry

/-! ## Scripts -/

/-- A text whose line ends are all line feeds. -/
def unifyLineEnds : List Char → List Char
  | [] => []
  | '\r' :: '\n' :: rest => '\n' :: unifyLineEnds rest
  | '\r' :: rest => '\n' :: unifyLineEnds rest
  | c :: rest => c :: unifyLineEnds rest

/-- The script at the end of a path, whose text has line feeds only. -/
def FileSystem.readScript (files : FileSystem) (path : Path) : Except ReadError Script :=
  (files.entry path).script.map fun s => ⟨String.ofList (unifyLineEnds s.text.toList), s.tree?⟩

/-! ## Tables of files -/

namespace FileEntry

/-- No file at a path, and why none can be opened. -/
def absent (path : Path) (error : ReadError) : FileEntry :=
  ⟨.ok false, fun _ => .unreadable (error.message path), .error error⟩

/-- A file that cannot be opened. -/
def locked (reason : String) : FileEntry :=
  ⟨.ok true, fun _ => .unreadable reason, .error (.locked reason)⟩

/-- A file of bytes that are no text. -/
def notText (error : Utf8.DecodeError) : FileEntry :=
  ⟨.ok true, fun _ => .notText error, .error (.notText error)⟩

/-- A file of text, and what the readers of formats and the parser make of it. -/
def text (content : Format → Content) (s : Script) : FileEntry := ⟨.ok true, content, .ok s⟩

/-- A configuration document of which only this is known: what readers make of it, and that the parser
makes nothing of it. -/
def document (content : Content) : FileEntry := .text (fun _ => content) ⟨"", none⟩

end FileEntry

/-- Files by their places. -/
structure FileTable where
  /-- The directory that relative paths start from. -/
  current : Place
  entries : List (Place × FileEntry)

namespace FileTable

/-- The file system that has the files of a table. -/
def system (t : FileTable) : FileSystem where
  resolve start := .ok ((start.map (·.resolve t.current)).getD t.current)
  entry path := (t.entries.lookup (path.resolve t.current)).getD (.absent path .missing)

end FileTable

end ChainLint
