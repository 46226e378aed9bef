/-!
# Paths

A path is a list of names behind a root, or behind none if it is relative. Reading a path drops empty
names and single dots, so that `./a//b` and `a/b` are the same path; two dots are kept, and are taken up
only when a path is resolved to a place. A path with exactly two slashes in front is written with both of
them, as is the custom; any other number of them is written as one. All of them lead to the same root.
-/

namespace ChainLint

/-- How the root of an absolute path is written. -/
inductive Root where
  /-- With one slash; three and more mean the same. -/
  | single
  /-- With exactly two slashes. -/
  | double
  deriving Repr, DecidableEq

def Root.render : Root → String
  | .single => "/"
  | .double => "//"

/-- A path; one without a root is relative. -/
structure Path where
  root? : Option Root
  names : List String
  deriving Repr, DecidableEq

/-- A directory or file, by the names that lead to it from the root. -/
structure Place where
  names : List String
  deriving Repr, DecidableEq

namespace Path

/-- The root that the slashes in front of a path write. -/
def leadingRoot? (cs : List Char) : Option Root :=
  match (cs.takeWhile (· == '/')).length with
  | 0 => none
  | 2 => some .double
  | _ => some .single

/-- The path that a text stands for. -/
def ofString (s : String) : Path :=
  ⟨leadingRoot? s.toList, (s.splitOn "/").filter fun name => name != "" && name != "."⟩

/-- A path as text; the empty relative path is a dot. -/
def render (p : Path) : String :=
  match p.root? with
  | some root => root.render ++ "/".intercalate p.names
  | none => if p.names.isEmpty then "." else "/".intercalate p.names

end Path

namespace Place

/-- The place of the root itself. -/
def root : Place := ⟨[]⟩

/-- The place of a name in a directory. -/
def child (directory : Place) (name : String) : Place := ⟨directory.names ++ [name]⟩

/-- The absolute path of a place. -/
def toPath (place : Place) : Path := ⟨some .single, place.names⟩

def render (place : Place) : String := place.toPath.render

/-- The places from one upward, given its names last to first. -/
def upwardFrom : List String → List Place
  | [] => [root]
  | name :: rest => ⟨(name :: rest).reverse⟩ :: upwardFrom rest

/-- A place and those above it, up to and including the root. -/
def upward (place : Place) : List Place := upwardFrom place.names.reverse

end Place

namespace Path

/-- Follow one name from a place whose names are given last to first; two dots lead up, and stay at the
root. -/
def follow (reversed : List String) (name : String) : List String :=
  if name = ".." then reversed.drop 1 else name :: reversed

/-- The place that a path leads to where there are no links, from the current directory unless the path
is absolute. -/
def resolve (current : Place) (p : Path) : Place :=
  let start := if p.root?.isSome then Place.root else current
  ⟨(p.names.foldl follow start.names.reverse).reverse⟩

/-- The place of a path that is taken from the root if it is relative. -/
def toPlace (p : Path) : Place := p.resolve .root

end Path

end ChainLint
