/-!
# Paths

Paths are texts with slashes between names. Joining does not normalise anything.
-/

set_option autoImplicit false

namespace Dissect.Path

/-- Whether a path starts at the root. -/
def isAbsolute (path : String) : Bool := path.toList.head? = some '/'

/-- A path as seen from a directory: an absolute one replaces it, any other goes behind it with
one slash between, unless the directory is empty or ends in a slash. -/
def join (dir path : String) : String :=
  if isAbsolute path then path
  else if dir.isEmpty || dir.toList.getLast? = some '/' then dir ++ path
  else s!"{dir}/{path}"

/-- Whether a name leads anywhere: an empty one and `.` stay in place. -/
def moves (name : String) : Bool := !name.isEmpty && name ≠ "."

/-- The names that a path goes through. Those that stay in place do not count, except for a `.`
that the path begins with. -/
def steps (path : String) : List String :=
  match path.splitOn "/" with
  | "." :: rest => "." :: rest.filter moves
  | all => all.filter moves

/-- A path and those of the directories that it lies in, innermost first, up to where it
begins. -/
def lineage (path : String) : List String :=
  let names := steps path
  if names.isEmpty then []
  else
    let root := if isAbsolute path then "/" else ""
    path :: (List.range (names.length - 1)).reverse.map fun n =>
      root ++ "/".intercalate (names.take (n + 1))

end Dissect.Path
