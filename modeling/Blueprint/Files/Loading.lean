import Blueprint.Files.Folder
import Blueprint.Files.Paths
import Blueprint.Json.Reader
import Blueprint.Parse
import Blueprint.Schema.Form
import Blueprint.Yaml.Reader

/-!
# Loading documents from files

A document is JSON or YAML, as the extension of its file name says.  Imports are
files, found from the directory of the main document.
-/

namespace Blueprint

/-- The written form of a document. -/
inductive Format where
  | json
  | yaml
deriving DecidableEq

/-- Why a document, a profile or a configuration cannot be loaded or used. -/
inductive LoadError where
  /-- The file cannot be opened. -/
  | file (cause : FileError)
  /-- A text is not JSON, or a document is not what it should be. -/
  | json
  /-- A text is not YAML, or a configuration is not what it should be. -/
  | yaml
  | unsupportedFormat (path : String)
  | unknownProfile (name : String)
  | extension (cause : ExtensionError)
  | parse (cause : ParseError)
deriving DecidableEq

/-- The text of an error. -/
def LoadError.message : LoadError → String
  | .file cause => "I/O error: " ++ cause.message
  | .json => "<json error>"
  | .yaml => "<yaml error>"
  | .unsupportedFormat path => "unsupported document format: " ++ path
  | .unknownProfile name => "unknown profile '" ++ name ++ "'"
  | .extension cause => "profile error: " ++ cause.message
  | .parse cause => cause.message

namespace Format

/-- The format of a file. -/
def ofPath (path : String) : Except LoadError Format :=
  match (Files.extension? path).map String.toLower with
  | some "json" => .ok .json
  | some "yaml" | some "yml" => .ok .yaml
  | _ => .error (.unsupportedFormat path)

/-- The name of a format. -/
def name : Format → String
  | .json => "json"
  | .yaml => "yaml"

/-- The error of a text that is not of a format. -/
def error : Format → LoadError
  | .json => .json
  | .yaml => .yaml

/-- Read a text. -/
def read? : Format → String → Option Tree
  | .json => Json.read?
  | .yaml => Yaml.read?

/-- The document of a text. -/
def load (format : Format) (text : String) : Except LoadError Tree :=
  match format.read? text with
  | some tree => .ok tree
  | none => .error format.error

end Format

namespace Files

/-- Load the document at a path. -/
def load (files : Files) (path : String) : Except LoadError Tree :=
  match Format.ofPath path with
  | .error cause => .error cause
  | .ok format =>
      match files.openPath path with
      | .error cause => .error (.file cause)
      | .ok (.text content) => format.load content
      | .ok _ => .error format.error

/-- Load the document at a path as a source of that name. -/
def source (files : Files) (path : String) : Except LoadError Source :=
  match files.load path with
  | .error cause => .error cause
  | .ok tree => .ok ⟨path, tree⟩

/-- Whether a path leads to a file. -/
def hasFile (files : Files) (path : String) : Bool :=
  match files.openPath path with
  | .ok (.text _) | .ok .binary => true
  | _ => false

/-- Whether characters contain the mark between a scheme and a host. -/
def hasHostMark : List Char → Bool
  | [] => false
  | ':' :: '/' :: '/' :: _ => true
  | _ :: rest => hasHostMark rest

/-- Whether a reference asks for a document of another host. -/
def isRemote (reference : String) : Bool :=
  hasHostMark reference.toList

/-- Find an imported document from a directory. -/
def resolve (files : Files) (base reference : String) : Except ResolveError Tree :=
  if isRemote reference then .error (.failed reference "remote imports are not supported")
  else
    let path := join base reference
    if files.hasFile path then
      match files.load path with
      | .error cause => .error (.failed reference cause.message)
      | .ok tree => .ok tree
    else .error (.notFound reference)

/-- The references that a text mentions as a document of either format. -/
def mentionedIn (content : String) : List String :=
  [Format.json, Format.yaml].flatMap fun format =>
    ((format.read? content).map Imports.mentioned).getD []

/-- A loaded document is the reading of one of the texts. -/
theorem exists_of_load {files : Files} {path : String} {tree : Tree}
    (loaded : files.load path = .ok tree) :
    ∃ content ∈ files.contents, ∃ format : Format, format.read? content = some tree := by
  unfold load at loaded
  split at loaded
  · simp at loaded
  · rename_i format _
    split at loaded
    · simp at loaded
    · rename_i content opened
      unfold Format.load at loaded
      split at loaded
      · rename_i read
        simp only [Except.ok.injEq] at loaded
        subst loaded
        exact ⟨content, files.complete _ _ opened, format, read⟩
      · simp at loaded
    · simp at loaded

/-- The resolver of a directory. -/
def resolver (files : Files) (base : String) : Resolver where
  resolve := files.resolve base
  mentions := files.contents.flatMap mentionedIn
  closed := by
    intro reference tree resolved mention member
    have loaded : files.load (join base reference) = .ok tree := by
      unfold resolve at resolved
      split at resolved
      · simp at resolved
      · simp only at resolved
        split at resolved
        · split at resolved
          · simp at resolved
          · rename_i loaded
            simp only [Except.ok.injEq] at resolved
            rw [loaded, resolved]
        · simp at resolved
    obtain ⟨content, held, format, read⟩ := exists_of_load loaded
    refine List.mem_flatMap.2 ⟨content, held, List.mem_flatMap.2 ⟨format, ?_, ?_⟩⟩
    · cases format <;> simp
    · simpa [read] using member

/-- Load the document at a path with everything that it imports, and parse it. -/
def parse (files : Files) (checks : Checks) (activation : Activation) (path : String) :
    Except LoadError Plan :=
  match files.source path with
  | .error cause => .error cause
  | .ok main =>
      match parseDocument checks activation.registry main (files.resolver (directory path))
          activation.policies with
      | .error cause => .error (.parse cause)
      | .ok plan => .ok plan

/-- Load the profile at a path. -/
def profile (files : Files) (path : String) : Except LoadError Profile :=
  match files.load path with
  | .error cause => .error cause
  | .ok tree =>
      match Profile.ofTree? tree with
      | some profile => .ok profile
      | none => .error .json

end Files

end Blueprint
