import Blueprint.Files.Loading
import Blueprint.Proofs.Document.MainName
import Blueprint.Proofs.Files.Opening
import Blueprint.Proofs.Schema.Activation

/-!
# Where the main file lies

A main file is named by the path under which it is loaded, its imports by references from
its directory.  So a document that imports the main file by its name in the directory
names it as if it were another document, unless the path is just that name
(`Folder.parse_mutualImport`).  Apart from this the directory makes no difference
wherever paths are followed step by step: `Files.Stepwise.parse_enter` compares the path
with a directory in front to the bare name in the directory itself.

`Folder.parse_location` says so of folders.  It is about directories that are named from
the folder on; as absolute paths lead nowhere in a folder, both sides fail below an
absolute one.
-/

namespace Blueprint

theorem Format.load_toOption (format : Format) (content : String) :
    (format.load content).toOption = format.read? content := by
  unfold Format.load
  cases format.read? content <;> rfl

namespace Files

/-- The files as they are found from a directory. -/
def enter (files : Files) (base : String) : Files where
  openPath path := files.openPath (join base path)
  contents := files.contents
  complete path content := files.complete (join base path) content

/-- What a path loads depends on the format that its name asks for and on the text to
which it leads. -/
theorem load_toOption (files : Files) (path : String) :
    (files.load path).toOption =
      (Format.ofPath path).toOption.bind fun format => (files.text? path).bind format.read? := by
  unfold Files.load Files.text?
  cases Format.ofPath path with
  | error cause => rfl
  | ok format =>
      cases files.openPath path with
      | error cause => rfl
      | ok opened =>
          cases opened with
          | text content => exact format.load_toOption content
          | binary => rfl
          | directory => rfl

theorem hasFile_of_load {files : Files} {path : String} {tree : Tree}
    (loaded : files.load path = .ok tree) : files.hasFile path := by
  unfold Files.load at loaded
  unfold Files.hasFile
  generalize Format.ofPath path = outcome at loaded
  cases outcome with
  | error cause => cases loaded
  | ok format =>
      generalize files.openPath path = outcome at loaded ⊢
      cases outcome with
      | error cause => cases loaded
      | ok opened =>
          cases opened with
          | text content => rfl
          | binary => rfl
          | directory => cases loaded

theorem resolve_toOption (files : Files) (base reference : String) :
    (files.resolve base reference).toOption =
      if isRemote reference then none else (files.load (join base reference)).toOption := by
  unfold Files.resolve
  split
  · rfl
  · dsimp only
    cases loaded : files.load (join base reference) with
    | error cause => split <;> rfl
    | ok tree =>
        rw [if_pos (hasFile_of_load loaded)]
        rfl

/-- Paths with the same last step ask for the same format. -/
theorem ofPath_toOption {first second : String} (same : lastStep? first = lastStep? second) :
    (Format.ofPath first).toOption = (Format.ofPath second).toOption := by
  have extensions : extension? first = extension? second := by
    rw [extension?, extension?, fileName?, fileName?, same]
  unfold Format.ofPath
  rw [extensions]
  split <;> rfl

theorem parse_toOption (files : Files) (checks : Checks) (activation : Activation)
    (path : String) :
    (files.parse checks activation path).toOption =
      (files.load path).toOption.bind fun tree =>
        (parseDocument checks activation.registry ⟨path, tree⟩ (files.resolver (directory path))
          activation.policies).toOption := by
  unfold Files.parse Files.source
  cases files.load path with
  | error cause => rfl
  | ok tree =>
      dsimp only [Except.toOption, Option.bind_some]
      cases parseDocument checks activation.registry ⟨path, tree⟩
        (files.resolver (directory path)) activation.policies <;> rfl

/-! ## Names -/

variable {name : String}

/-- The name of a file is its only part. -/
theorem parts_name (isName : fileName? name = some name) :
    Text.parts '/' name = [name] ∧ counts name := by
  have last : (Folder.naming name).getLast? = some name := by
    rw [← lastStep?_eq]
    exact (Option.filter_eq_some_iff.mp isName).1
  obtain ⟨isPart, counting⟩ := List.mem_filter.mp (List.mem_of_getLast? last)
  obtain ⟨part, member, same⟩ := List.mem_map.mp isPart
  have absent : '/' ∉ name.toList := by
    rw [← same, String.toList_ofList]
    exact Text.absent_of_mem_split member
  exact ⟨by simp [Text.parts, Text.split_of_absent absent], counting⟩

theorem naming_name (isName : fileName? name = some name) : Folder.naming name = [name] := by
  obtain ⟨parts, counting⟩ := parts_name isName
  rw [naming_eq, parts, List.filter_cons_of_pos counting, List.filter_nil]

theorem relative_name (isName : fileName? name = some name) : ¬ IsAbsolute name := by
  intro absolute
  obtain ⟨rest, chars⟩ := List.head?_eq_some_iff.mp absolute
  have parts := (parts_name isName).1
  simp [Text.parts, chars, Text.split, Text.split_ne_nil] at parts

theorem directory_name (isName : fileName? name = some name) : directory name = "" := by
  obtain ⟨parts, counting⟩ := parts_name isName
  have start : lead name = "" := by
    generalize start : lead name = mark
    cases start ▸ starts_lead name with
    | absolute chars => exact absurd (by simp [IsAbsolute, chars]) (relative_name isName)
    | here chars => simp [Text.parts, chars, Text.split, Text.split_ne_nil] at parts
    | dot chars =>
        have dot : name = "." := String.toList_inj.mp chars
        simp [dot, counts] at counting
    | plain => rfl
  have only : dropIdle (steps name) = [name] := by
    have whole : steps name = [] ++ [name] := by simp [steps, start, parts]
    rw [whole, dropIdle_concat, if_pos counting, List.nil_append]
  rw [directory, only, start]
  rfl

/-! ## From the directory -/

namespace Stepwise

variable {files : Files} (stepwise : files.Stepwise) {base : String}

include stepwise

/-- The directory of the path is as good as what stands before the name. -/
theorem text?_join_directory (isName : fileName? name = some name) (reference : String) :
    files.text? (join (directory (join base name)) reference) =
      files.text? (join base reference) := by
  by_cases absolute : IsAbsolute reference
  · rw [join_absolute absolute, join_absolute absolute]
  · have relative := relative_name isName
    have names : Folder.naming (join base name) = Folder.naming base ++ [name] := by
      rw [naming_join base relative, naming_name isName]
    apply stepwise.same
    · rw [isAbsolute_join _ absolute, isAbsolute_join _ absolute,
        isAbsolute_directory (by simp [names]), isAbsolute_join base relative]
    · rw [endsNamed_join, endsNamed_join]
    · rw [naming_join _ absolute, naming_join _ absolute, naming_directory, names,
        List.dropLast_concat]

/-- What a join loads depends on the name of the file and on the text to which it leads. -/
theorem load_join (base path : String) :
    (files.load (join base path)).toOption =
      (Format.ofPath path).toOption.bind fun format =>
        (files.text? (join base path)).bind format.read? := by
  have loaded := files.load_toOption (join base path)
  by_cases absolute : IsAbsolute path
  · simp only [join_absolute absolute] at loaded ⊢
    exact loaded
  · cases named : endsNamed path with
    | false =>
        have none : files.text? (join base path) = none :=
          stepwise.named _ ((endsNamed_join base path).trans named)
        simp only [none, Option.bind_none, Option.bind_fun_none] at loaded ⊢
        exact loaded
    | true =>
        have last : lastStep? (join base path) = lastStep? path := by
          rw [lastStep?_eq, lastStep?_eq, naming_join base absolute,
            List.getLast?_append_of_ne_nil _ (naming_ne_nil named)]
        simp only [ofPath_toOption last] at loaded
        exact loaded

/-- What is loaded through the directory is loaded from inside. -/
theorem load_enter (base path : String) :
    ((files.enter base).load path).toOption = (files.load (join base path)).toOption :=
  (load_toOption _ path).trans (stepwise.load_join base path).symm

/-- The same references are found through the path and from inside. -/
theorem findsSame_enter (isName : fileName? name = some name) :
    Imports.FindsSame (files.resolver (directory (join base name)))
      ((files.enter base).resolver (directory name)) := by
  intro reference
  have here := files.resolve_toOption (directory (join base name)) reference
  have there := (files.enter base).resolve_toOption (directory name) reference
  have loads : (files.load (join (directory (join base name)) reference)).toOption =
      ((files.enter base).load (join (directory name) reference)).toOption := by
    have outside := stepwise.load_join (directory (join base name)) reference
    have inside := (stepwise.load_enter base reference).trans (stepwise.load_join base reference)
    simp only [directory_name isName, join_empty]
    simp only [stepwise.text?_join_directory isName] at outside
    exact outside.trans inside.symm
  simp only [loads] at here
  exact here.trans there.symm

/-- A directory in front of the main file makes no difference, as long as no document on
the way imports the main file by its name in the directory or by the path. -/
theorem parse_enter (isName : fileName? name = some name) (checks : Checks)
    (activation : Activation)
    (apart : ∀ tree, files.load (join base name) = .ok tree →
      ∀ reference ∈ [name, join base name],
        ¬ Imports.Mentions ⟨join base name, tree⟩
          (files.resolver (directory (join base name))) reference) :
    (files.parse checks activation (join base name)).toOption =
      ((files.enter base).parse checks activation name).toOption := by
  have outside := files.parse_toOption checks activation (join base name)
  have inside := (files.enter base).parse_toOption checks activation name
  simp only [stepwise.load_enter base name] at inside
  cases loaded : files.load (join base name) with
  | error cause =>
      have nothing : (Except.error cause : Except LoadError Tree).toOption = none := rfl
      simp only [loaded, nothing, Option.bind_none] at outside inside
      exact outside.trans inside.symm
  | ok tree =>
      have it : (Except.ok tree : Except LoadError Tree).toOption = some tree := rfl
      simp only [loaded, it, Option.bind_some] at outside inside
      have unmentioned := List.forall_mem_cons.mp (apart tree loaded)
      have same := parseDocument_main_name (stepwise.findsSame_enter isName)
        (unmentioned.2 _ List.mem_cons_self) unmentioned.1 checks activation.registry
        activation.policies
      exact outside.trans (same.trans inside.symm)

end Stepwise

end Files

namespace Folder

open Files

variable (folder : Folder) {base name : String}

/-- A directory in front of the main file makes no difference, as long as no document on
the way imports the main file by its name in the directory or by the path.  Below an
absolute directory no file is found with or without it, see `Folder.openPath`. -/
theorem parse_location (isName : fileName? name = some name) (checks : Checks)
    (activation : Activation)
    (apart : ∀ tree, folder.toFiles.load (join base name) = .ok tree →
      ∀ reference ∈ [name, join base name],
        ¬ Imports.Mentions ⟨join base name, tree⟩
          (folder.toFiles.resolver (directory (join base name))) reference) :
    (folder.toFiles.parse checks activation (join base name)).toOption =
      ((folder.toFiles.enter base).parse checks activation name).toOption :=
  folder.stepwise.parse_enter isName checks activation apart

/-! ## Two main files -/

/-- The text of a document that imports others, with a further entry. -/
def importing (imports : List String) (key value : String) : String :=
  Json.text (.mapping (Entries.insert [(key, .string value)] "imports"
    (.sequence (imports.map .string))))

/-- The description in a plan. -/
def describes (plan : Plan) : Option String :=
  (plan.get? "description").bind Tree.text?

/-- A main file that imports a description. -/
def plainImport : Folder :=
  (Folder.empty.addFile "d/m.json" (importing ["a.json"] "title" "plain")).addFile
    "d/a.json" (importing [] "description" "from a")

/-- The main file is not among what is imported. -/
theorem plainImport_apart (tree : Tree)
    (loaded : plainImport.toFiles.load (Files.join "d" "m.json") = .ok tree) :
    ∀ reference ∈ ["m.json", Files.join "d" "m.json"],
      ¬ Imports.Mentions ⟨Files.join "d" "m.json", tree⟩
        (plainImport.toFiles.resolver (Files.directory (Files.join "d" "m.json"))) reference := by
  have path : Files.join "d" "m.json" = "d/m.json" := by decide
  have directory : Files.directory "d/m.json" = "d" := by decide
  rw [path] at loaded ⊢
  rw [directory]
  have main : Imports.importsOf ⟨"d/m.json", tree⟩ (plainImport.toFiles.resolver "d") "d/m.json" =
      ["a.json"] := by
    have list : (plainImport.toFiles.load "d/m.json").toOption.map Imports.mentioned =
        some ["a.json"] := by
      decide +kernel
    rw [Imports.importsOf, if_pos rfl]
    simpa only [loaded, Except.toOption, Option.map_some, Option.some.injEq] using list
  have imported : Imports.importsOf ⟨"d/m.json", tree⟩ (plainImport.toFiles.resolver "d") "a.json" =
      [] := by
    have other : "a.json" ≠ "d/m.json" := by decide
    have list : (plainImport.toFiles.resolve "d" "a.json").toOption.map Imports.mentioned =
        some [] := by
      decide +kernel
    exact Imports.importsOf_of_mentioned other list
  intro reference named mentions
  obtain ⟨importer, isKnown, member⟩ :=
    mentions.of_closed ["d/m.json", "a.json"] List.mem_cons_self (by simp [main, imported])
  rcases List.mem_cons.mp isKnown with rfl | isKnown
  · rw [main] at member
    rw [List.mem_singleton.mp member] at named
    exact absurd named (by decide)
  · rw [List.mem_singleton.mp isKnown, imported] at member
    exact absurd member List.not_mem_nil

/-- Documents with a title, a description and imports. -/
def documents : Except ExtensionError Registry :=
  let fields := ["description", "imports", "title"].map fun key => (key, Field.optional "any")
  match Registry.register "document"
      [.leaf "any" .any, ⟨"document", .composite (.ofList fields), []⟩] with
  | .error cause => .error cause
  | .ok registry => registry.freeze

/-- The main file gives the same plan through its path and from inside. -/
theorem parse_plainImport :
    ∃ registry plan, documents = .ok registry ∧ describes plan = some "from a" ∧
      let activation : Activation := ⟨registry, PolicyTable.empty⟩
      let outside := plainImport.toFiles.parse Checks.none activation (Files.join "d" "m.json")
      let inside := (plainImport.toFiles.enter "d").parse Checks.none activation "m.json"
      outside = .ok plan ∧ outside.toOption = inside.toOption := by
  have evaluated : documents.toOption.any (fun registry =>
      (plainImport.toFiles.parse Checks.none ⟨registry, PolicyTable.empty⟩
        (Files.join "d" "m.json")).toOption.any
        fun plan => describes plan = some "from a") = true := by
    decide +kernel
  obtain ⟨registry, frozen, parses⟩ := exists_of_any_toOption evaluated
  obtain ⟨plan, parsed, described⟩ := exists_of_any_toOption parses
  have isName : Files.fileName? "m.json" = some "m.json" := by decide
  exact ⟨registry, plan, frozen, of_decide_eq_true described, parsed,
    plainImport.parse_location isName Checks.none ⟨registry, PolicyTable.empty⟩ plainImport_apart⟩

/-- A main file whose first import imports it, too. -/
def mutualImport : Folder :=
  ((Folder.empty.addFile "d/m.json"
    (importing ["a.json", "b.json"] "tosca_definitions_version" "v1")).addFile
    "d/a.json" (importing ["m.json"] "description" "from a")).addFile
    "d/b.json" (importing [] "description" "from b")

/-- Through its path the main file is imported a second time, before the file that imports
it, and the last of the other imports is no longer merged last. -/
theorem parse_mutualImport :
    ∃ activation, Profile.activate [] = .ok activation ∧
      let outside := mutualImport.toFiles.parse Checks.none activation (Files.join "d" "m.json")
      let inside := (mutualImport.toFiles.enter "d").parse Checks.none activation "m.json"
      outside.toOption.bind describes = some "from a" ∧
      inside.toOption.bind describes = some "from b" ∧ outside.toOption ≠ inside.toOption := by
  have evaluated : (Profile.activate []).toOption.any (fun activation =>
      (mutualImport.toFiles.parse Checks.none activation
        (Files.join "d" "m.json")).toOption.bind describes = some "from a" ∧
      ((mutualImport.toFiles.enter "d").parse Checks.none activation
        "m.json").toOption.bind describes = some "from b") = true := by
    decide +kernel
  obtain ⟨activation, activated, described⟩ := exists_of_any_toOption evaluated
  obtain ⟨outside, inside⟩ := of_decide_eq_true described
  refine ⟨activation, activated, outside, inside, fun same => ?_⟩
  rw [same, inside] at outside
  exact absurd (Option.some.inj outside) (by decide)

end Folder

end Blueprint
