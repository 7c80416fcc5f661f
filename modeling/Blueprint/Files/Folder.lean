import Blueprint.Dict
import Blueprint.Text.Split

/-!
# Files

What opening a path gives.  `Files` is any finite collection of texts that paths
lead to.  `Folder` is a directory with everything below it, in which paths are
followed step by step; nothing is known of where it lies or of what lies beside it,
so absolute paths lead nowhere in it.
-/

namespace Blueprint

/-- Why a path cannot be opened. -/
inductive FileError where
  /-- It leads nowhere. -/
  | missing
  /-- It goes on from a file as if that were a directory. -/
  | notDirectory
  /-- Something else is in the way. -/
  | other (reason : String)
deriving DecidableEq

/-- The text of an error. -/
def FileError.message : FileError → String
  | .missing => "No such file or directory (os error 2)"
  | .notDirectory => "Not a directory (os error 20)"
  | .other reason => reason

/-- What a path leads to. -/
inductive Opened where
  /-- A file with its text. -/
  | text (content : String)
  /-- A file that is no text. -/
  | binary
  | directory
deriving DecidableEq

/-- The text of a file. -/
def Opened.text? : Opened → Option String
  | .text content => some content
  | _ => none

/-- A collection of files. -/
structure Files where
  /-- What opening a path gives. -/
  openPath : String → Except FileError Opened
  /-- The texts of all files. -/
  contents : List String
  /-- There are no others. -/
  complete : ∀ path content, openPath path = .ok (.text content) → content ∈ contents

namespace Files

/-- The files at some paths.  Of several entries for a path the first counts, and
paths without an entry lead nowhere. -/
def ofPaths (opened : List (String × Except FileError Opened)) : Files where
  openPath path := (opened.lookup path).getD (.error .missing)
  contents := opened.filterMap fun entry => entry.2.toOption.bind Opened.text?
  complete := by
    intro path content found
    induction opened with
    | nil => simp at found
    | cons entry rest ih =>
        obtain ⟨name, result⟩ := entry
        rw [List.lookup_cons] at found
        rw [List.filterMap_cons]
        cases same : path == name with
        | true =>
            simp only [same, Option.getD_some] at found
            subst found
            simp [Except.toOption, Opened.text?]
        | false =>
            simp only [same] at found
            have member := ih found
            split
            · exact member
            · exact List.mem_cons_of_mem _ member

end Files

/-- A directory with the files and directories below it, under their paths from
it, which are steps joined by slashes. -/
structure Folder where
  /-- The texts of the files. -/
  files : Dict String
  /-- The directories. -/
  directories : NameSet

namespace Folder

/-- The folder with nothing in it. -/
def empty : Folder :=
  ⟨∅, ∅⟩

/-- The steps of a path that name something. -/
def naming (path : String) : List String :=
  (Text.parts '/' path).filter fun step => step != "" && step != "."

/-- The paths of all directories on the way that some steps lead. -/
def ancestors (steps : List String) : List String :=
  (List.range steps.length).map fun count => "/".intercalate (steps.take (count + 1))

/-- Add a directory with those in which it lies. -/
def addDirectory (folder : Folder) (path : String) : Folder :=
  { folder with directories := folder.directories.addAll (ancestors (naming path)) }

/-- Add a file with the directories in which it lies. -/
def addFile (folder : Folder) (path content : String) : Folder :=
  let steps := naming path
  { files := folder.files.insert ("/".intercalate steps) content
    directories := folder.directories.addAll (ancestors steps.dropLast) }

/-- A place to which steps lead. -/
inductive Place where
  /-- A directory of the folder, given by its steps; none for the folder itself. -/
  | inside (steps : List String)
  /-- A directory that encloses the folder. -/
  | outside
  /-- A file of the folder. -/
  | file (content : String)

/-- Go one step further. -/
def step (folder : Folder) (place : Place) (step : String) : Except FileError Place :=
  match place with
  | .file _ => .error .notDirectory
  | .outside => if step == "." || step == ".." then .ok .outside else .error .missing
  | .inside steps =>
      if step == "." then .ok place
      else if step == ".." then
        if steps.isEmpty then .ok .outside else .ok (.inside steps.dropLast)
      else
        let path := "/".intercalate (steps ++ [step])
        match folder.files.get? path with
        | some content => .ok (.file content)
        | none =>
            if folder.directories.contains path then .ok (.inside (steps ++ [step]))
            else .error .missing

/-- The steps of a path.  A slash at the end asks for a directory, as a dot does. -/
def way (path : String) : List String :=
  let steps := (Text.parts '/' path).filter (· != "")
  if path.toList.getLast? = some '/' then steps ++ ["."] else steps

/-- Follow a path from the folder.  The empty path leads nowhere.  Nor do absolute
paths: it is not known where the folder lies, so none of them can be said to lead
into it. -/
def openPath (folder : Folder) (path : String) : Except FileError Opened :=
  if path.isEmpty || path.toList.head? = some '/' then .error .missing
  else
    match (way path).foldlM folder.step (.inside []) with
    | .error cause => .error cause
    | .ok (.file content) => .ok (.text content)
    | .ok _ => .ok .directory

/-- A step leads to files of the folder only. -/
theorem mem_values_of_step {folder : Folder} {place : Place} {name content : String}
    (stepped : folder.step place name = .ok (.file content)) :
    content ∈ folder.files.values := by
  unfold step at stepped
  split at stepped
  · simp at stepped
  · split at stepped <;> simp at stepped
  · split at stepped
    · simp at stepped
    · split at stepped
      · split at stepped <;> simp at stepped
      · simp only at stepped
        split at stepped
        · rename_i found
          simp only [Except.ok.injEq, Place.file.injEq] at stepped
          subst stepped
          exact Entries.mem_values_of_get? found
        · split at stepped <;> simp at stepped

/-- Steps from a directory lead to files of the folder only. -/
theorem mem_values_of_steps {folder : Folder} {content : String} (names : List String)
    {place : Place} (start : ∀ other, place = .file other → other ∈ folder.files.values)
    (led : names.foldlM folder.step place = .ok (.file content)) :
    content ∈ folder.files.values := by
  induction names generalizing place with
  | nil =>
      simp only [List.foldlM_nil, pure, Except.pure, Except.ok.injEq] at led
      exact start content led
  | cons name rest ih =>
      rw [List.foldlM_cons] at led
      cases stepped : folder.step place name with
      | error cause => simp [stepped, bind, Except.bind] at led
      | ok next =>
          simp only [stepped, bind, Except.bind] at led
          refine ih (fun other same => ?_) led
          subst same
          exact mem_values_of_step stepped

/-- The files of a folder. -/
def toFiles (folder : Folder) : Files where
  openPath := folder.openPath
  contents := folder.files.values
  complete := by
    intro path content opened
    unfold openPath at opened
    split at opened
    · simp at opened
    · split at opened
      · simp at opened
      · rename_i led
        simp only [Except.ok.injEq, Opened.text.injEq] at opened
        subst opened
        exact mem_values_of_steps _ (fun _ same => by simp at same) led
      · simp at opened

end Folder

end Blueprint
