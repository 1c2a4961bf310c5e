/-!
The files and directories that a task looks at, and how a path leads to one of them: from the
working directory, or from the root of the system if it starts with a slash.
-/

namespace PumaBoard.Tasks

/-! ### Places -/

/-- What stands at a place of a tree. -/
inductive Entry where
  | file
  | directory
deriving DecidableEq, Repr

/-- A place: the names that lead to it from the root of a tree. Those of a place outside of the
tree start with names that go up. -/
abbrev Place := List String

namespace Place

/-- The name stays in its directory. -/
def staysHere (name : String) : Bool := name = "" || name = "."

/-- The name leads to the directory above. -/
def goesUp (name : String) : Bool := name = ".."

/-- The place is the root or a directory above it. -/
def isAbove (place : Place) : Bool := place.all goesUp

/-- The place to which a name leads; if `top`, nothing is above the root. -/
def step (top : Bool) (place : Place) (name : String) : Place :=
  if staysHere name then place
  else if !goesUp name then place ++ [name]
  else if !place.isAbove then place.dropLast
  else if top then place
  else place ++ [name]

/-- The places that names lead through, the last one apart. -/
def passed (place : Place) : List String → List Place
  | [] => []
  | name :: names => place :: passed (place.step false name) names

/-- The place that names lead to. -/
def reached (place : Place) (names : List String) : Place := names.foldl (step false) place

end Place

/-- The names of a path. -/
def pathNames (path : String) : List String := path.splitOn "/"

/-- The path starts at the root of the system. -/
def isAbsolute (path : String) : Bool := path.toList.head? = some '/'

/-- The most bytes that a path may have; a longer one leads nowhere. -/
def maxPathBytes : Nat := 4095

/-! ### Trees -/

/-- Files and directories by their places. The directories on the way to them exist too, and those
above the root. -/
structure Tree where
  directories : List Place := []
  files : List Place := []
deriving DecidableEq, Repr

namespace Tree

/-- The tree in which directories and files have been made at the given paths. Everything that a
path leads through is a directory. -/
def ofPaths (directories files : List String) : Tree :=
  let directoryNames := directories.map pathNames
  let fileNames := files.map pathNames
  { directories :=
      directoryNames.map (Place.reached []) ++
        (directoryNames ++ fileNames).flatMap (Place.passed [])
    files := fileNames.map (Place.reached []) }

/-- What every system has. -/
def system : Tree :=
  .ofPaths
    ["bin", "dev", "etc", "home", "lib", "media", "mnt", "opt", "proc", "root", "run", "sbin",
      "srv", "sys", "tmp", "usr/bin", "usr/lib", "usr/local/bin", "usr/local/lib", "usr/sbin",
      "usr/share", "var/cache", "var/lib", "var/log", "var/tmp"]
    ["bin/sh", "dev/full", "dev/null", "dev/random", "dev/tty", "dev/urandom", "dev/zero",
      "etc/group", "etc/hosts", "etc/passwd", "usr/bin/env"]

/-- What stands at a place. -/
def entry? (t : Tree) (place : Place) : Option Entry :=
  if t.files.contains place then some .file
  else if place.isAbove || (t.directories ++ t.files).any place.isPrefixOf then some .directory
  else none

/-- What the names of a path lead to from a place; if `top`, nothing is above the root. -/
def follow (t : Tree) (top : Bool) (place : Place) : List String → Option Entry
  | [] => t.entry? place
  | name :: names =>
    if t.entry? place = some .directory then t.follow top (place.step top name) names else none

/-- Whether a path leads to something. -/
def reaches (t : Tree) (path : String) : Bool :=
  if path.isEmpty || maxPathBytes < path.utf8ByteSize then false
  else if isAbsolute path then (system.follow true [] (pathNames path)).isSome
  else (t.follow false [] (pathNames path)).isSome

end Tree

end PumaBoard.Tasks
