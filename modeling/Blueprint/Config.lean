import Blueprint.Files.Loading
import Blueprint.Yaml.Writer

/-!
# Configuration

A configuration says which profiles are active and how documents are merged.  It
is a YAML file.  A built-in profile comes first and profile files follow; the
policies of the configuration come last.

In a configuration only the text of a scalar counts: `1.0` and `"1.0"` are the
same version.  Parts that are not known are ignored.
-/

namespace Blueprint

/-- Which profiles are active and how documents are merged. -/
structure Config where
  /-- The version of the configuration format. -/
  version : String := "1.0"
  /-- The built-in profile. -/
  profile : Option String := none
  /-- The paths of further profiles. -/
  profileFiles : List String := []
  /-- The policy of keys without one. -/
  defaultPolicy : Policy := .override
  /-- The policies of single keys. -/
  mergePolicies : Dict Policy := ∅
  /-- The directory from which the profile files are found. -/
  base : String := ""

namespace Config

/-- The configuration that says nothing. -/
def default : Config :=
  {}

/-- Choose another built-in profile. -/
def withProfile (config : Config) (name : String) : Config :=
  { config with profile := some name }

/-! ## The written form -/

/-- The written form of a configuration. -/
def toTree (config : Config) : Tree :=
  Form.record
    [("version", some (.string config.version)),
     ("profile", config.profile.map .string),
     ("profile_files", Form.given (!config.profileFiles.isEmpty) (Form.texts config.profileFiles)),
     ("default_policy", some config.defaultPolicy.toTree),
     ("merge_policies", Form.given (!config.mergePolicies.isEmpty)
       (.mapping (config.mergePolicies.mapValues fun _ policy => policy.toTree).entries))]

/-- The text of a configuration file. -/
def text (config : Config) : String :=
  Yaml.text config.toTree

/-- Whether a node is a value that is not written. -/
def isAbsent : Yaml.Node → Bool
  | .scalar _ "" true => true
  | _ => false

/-- Read a text. -/
def text? (document node : Yaml.Node) : Option String :=
  (document.target? node).bind Yaml.Node.text?

/-- Read a text for which null stands for none. -/
def nullableText? (document node : Yaml.Node) : Option (Option String) :=
  match document.target? node with
  | some (.scalar own text plain) =>
      if !plain then some (some text)
      else
        match own.tag with
        | none => if text.isEmpty || Yaml.isNullWord text then some none else some (some text)
        | some tag =>
            if tag.text? != some "tag:yaml.org,2002:null" then some (some text)
            else if Yaml.isNullWord text then some none
            else none
  | _ => none

/-- Read a list of texts. -/
def texts? (document node : Yaml.Node) : Option (List String) := do
  match ← document.target? node with
  | .sequence _ items => items.mapM (text? document)
  | other => if isAbsent other then some [] else none

/-- Read a policy: its name, as a text or as the tag of nothing. -/
def policy? (document node : Yaml.Node) : Option Policy := do
  match ← document.target? node with
  | .scalar own text plain =>
      match (own.tag.bind Yaml.Tag.text?).map String.toList with
      | some ('!' :: name) =>
          if plain && (text.isEmpty || Yaml.isNullWord text) then
            Policy.ofName? (String.ofList name)
          else none
      | _ => Policy.ofName? text
  | _ => none

/-- Read the policies of keys. -/
def policies? (document node : Yaml.Node) : Option (Dict Policy) := do
  match ← document.target? node with
  | .mapping _ entries =>
      let read ← entries.mapM fun (key, value) => do
        some (← text? document key, ← policy? document value)
      some (Dict.ofList read)
  | other => if isAbsent other then some ∅ else none

/-- The names of the parts. -/
def partNames : List String :=
  ["version", "profile", "profile_files", "default_policy", "merge_policies"]

/-- The known parts among some entries.  None may be given twice. -/
def knownParts? (document : Yaml.Node) :
    List (Yaml.Node × Yaml.Node) → Option (List (String × Yaml.Node))
  | [] => some []
  | (key, value) :: rest => do
      let name ← text? document key
      let others ← knownParts? document rest
      if !partNames.contains name then some others
      else if (others.lookup name).isSome then none
      else some ((name, value) :: others)

/-- The parts of a configuration. -/
def parts? (document : Yaml.Node) : Option (List (String × Yaml.Node)) :=
  match document with
  | .mapping _ entries => knownParts? document entries
  | other => if isAbsent other then some [] else none

/-- Read a configuration whose profile files are found from a directory. -/
def ofNode? (base : String) (document : Yaml.Node) : Option Config := do
  let parts ← parts? document
  let part {α : Type} (name : String) (absent : α) (read : Yaml.Node → Yaml.Node → Option α) :
      Option α :=
    match parts.lookup name with
    | none => some absent
    | some node => read document node
  some
    { version := ← part "version" default.version text?
      profile := ← part "profile" default.profile nullableText?
      profileFiles := ← part "profile_files" default.profileFiles texts?
      defaultPolicy := ← part "default_policy" default.defaultPolicy policy?
      mergePolicies := ← part "merge_policies" default.mergePolicies policies?
      base }

/-- Read the text of a configuration file. -/
def ofText? (base text : String) : Option Config := do
  match ← Yaml.Node.ofText? text with
  | none => some { default with base }
  | some document => ofNode? base document

/-- Load the configuration at a path. -/
def load (files : Files) (path : String) : Except LoadError Config :=
  match files.openPath path with
  | .error cause => .error (.file cause)
  | .ok opened =>
      match opened.text?.bind (ofText? (Files.directory path)) with
      | some config => .ok config
      | none => .error .yaml

/-! ## Activation -/

/-- Load profiles in order. -/
def loadProfiles (files : Files) (paths : List String) : Except LoadError (List Profile) :=
  paths.mapM files.profile

/-- The paths of the profile files. -/
def profilePaths (config : Config) : List String :=
  config.profileFiles.map (Files.join config.base)

/-- The profiles of a configuration, in the order in which they are applied. -/
def profiles (files : Files) (config : Config) : Except LoadError (List Profile) :=
  match config.profile with
  | none => loadProfiles files config.profilePaths
  | some name =>
      match Profile.builtin? name with
      | none => .error (.unknownProfile name)
      | some profile =>
          match loadProfiles files config.profilePaths with
          | .error cause => .error cause
          | .ok others => .ok (profile :: others)

/-- The schema and the merge policies of a configuration. -/
def activate (files : Files) (config : Config) : Except LoadError Activation :=
  match config.profiles files with
  | .error cause => .error cause
  | .ok profiles =>
      match Profile.activate profiles with
      | .error cause => .error (.extension cause)
      | .ok activation =>
          .ok
            { activation with
              policies :=
                (activation.policies.withDefault config.defaultPolicy).setAll
                  config.mergePolicies.entries }

end Config

end Blueprint
