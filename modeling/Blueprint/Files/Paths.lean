import Blueprint.Text.Split

/-!
# File paths

The parts of a file path.  A path is a text whose steps are separated by slashes.
Empty steps and single dots do not count, except for a dot at the very start.
-/

namespace Blueprint.Files

/-- The start of a path that is no step: the slash of an absolute path or a single
dot. -/
def lead (path : String) : String :=
  match path.toList with
  | '/' :: _ => "/"
  | '.' :: '/' :: _ => "."
  | ['.'] => "."
  | _ => ""

/-- The steps of a path after its start, with those that do not count. -/
def steps (path : String) : List String :=
  Text.parts '/' (String.ofList (path.toList.drop (lead path).length))

/-- Leave out the steps at the end that do not count. -/
def dropIdle (steps : List String) : List String :=
  (steps.reverse.dropWhile fun step => step == "" || step == ".").reverse

/-- The last step, if one counts. -/
def lastStep? (path : String) : Option String :=
  (dropIdle (steps path)).getLast?

/-- The path of the directory in which a path ends, as far as it is written.  It is
empty where the path has only one step or none. -/
def directory (path : String) : String :=
  match dropIdle (steps path) with
  | [] => ""
  | counting => lead path ++ "/".intercalate (dropIdle counting.dropLast)

/-- The name of the file to which a path leads. -/
def fileName? (path : String) : Option String :=
  (lastStep? path).filter (· != "..")

/-- What follows the last dot in the name of a file.  A dot at the start of the name
does not count. -/
def extension? (path : String) : Option String :=
  (fileName? path).bind fun name =>
    let characters := name.toList
    let after := characters.reverse.takeWhile (· != '.')
    if after.length + 1 < characters.length then some (String.ofList after.reverse) else none

/-- The path of a file that is given relative to a directory.  Absolute paths stay
what they are. -/
def join (base reference : String) : String :=
  if reference.toList.head? = some '/' || base.isEmpty then reference
  else if base.toList.getLast? = some '/' then base ++ reference
  else base ++ "/" ++ reference

end Blueprint.Files
