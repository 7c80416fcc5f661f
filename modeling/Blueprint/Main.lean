import Blueprint.Command.Answer

/-!
# The program

Reads the files that a command needs and prints its outcome.  Which files these
are depends on what the files say, so they are read in rounds until a round asks
for no further one.
-/

namespace Blueprint.Command

/-- Open a path. -/
def openFile (path : String) : IO (Except FileError Opened) := do
  let directory ← IO.currentDir
  if ← (directory / path).isDir then return .ok .directory
  else
    try
      let bytes ← IO.FS.readBinFile path
      match String.fromUTF8? bytes with
      | some content => return .ok (.text content)
      | none => return .ok .binary
    catch error =>
      match error with
      | .noFileOrDirectory .. => return .error .missing
      | .inappropriateType .. => return .error .notDirectory
      | other => return .error (.other (toString other))

/-- Read the files that a command needs, beyond those that are known. -/
partial def gather (command : Command) (known : List (String × Except FileError Opened)) :
    IO Files := do
  let files := Files.ofPaths known
  let wanted := (command.paths files).filter fun path => (known.lookup path).isNone
  if wanted.isEmpty then return files
  else
    let found ← wanted.eraseDups.mapM fun path => do return (path, ← openFile path)
    gather command (known ++ found)

end Blueprint.Command

/-- The program. -/
def main (arguments : List String) : IO UInt32 := do
  let files ←
    match Blueprint.Command.ofArguments? arguments with
    | some command => command.gather []
    | none => pure (Blueprint.Files.ofPaths [])
  let outcome := Blueprint.Command.answer files arguments
  IO.print outcome.output
  IO.eprint outcome.errors
  return outcome.code.toUInt32
