import Blueprint.Command.Arguments
import Blueprint.Config
import Blueprint.Text.WhiteSpace

/-!
# Answering the command line

What the program prints and how it ends, as a function of its arguments and of the
files that its paths lead to.
-/

namespace Blueprint.Command

/-- What the program prints and how it ends. -/
structure Outcome where
  /-- The exit code: 0 for success, 1 for a failure, 2 for arguments that make no
  sense. -/
  code : UInt8
  /-- The text on the standard output. -/
  output : String
  /-- The text on the standard error output. -/
  errors : String
deriving DecidableEq

namespace Outcome

/-- Success. -/
def success (output : String) : Outcome :=
  ⟨0, output, ""⟩

/-- Failure after some output. -/
def failure (output reason : String) : Outcome :=
  ⟨1, output, "error: " ++ reason ++ "\n"⟩

end Outcome

/-- A text without the white space at its end, as a line. -/
def line (text : String) : String :=
  String.ofList ((text.toList.reverse.dropWhile Text.isWhiteSpace).reverse ++ ['\n'])

/-- The text of a tree, as lines. -/
def render (format : OutputFormat) (tree : Tree) : String :=
  match format with
  | .json => line (Json.indentedText tree)
  | .yaml => line (Yaml.text tree)

/-- The schema and the merge policies that are asked for. -/
def activate (files : Files) (setup : Setup) : Except String Activation :=
  let configured : Except String Config :=
    match setup.config with
    | none => .ok .default
    | some path =>
        match Config.load files path with
        | .ok config => .ok config
        | .error cause => .error ("Failed to load config '" ++ path ++ "': " ++ cause.message)
  match configured with
  | .error reason => .error reason
  | .ok config =>
      let chosen := setup.profile.elim config config.withProfile
      match chosen.activate files with
      | .ok activation => .ok activation
      | .error cause => .error cause.message

/-- Print a plan. -/
def runParse (files : Files) (activation : Activation) (format : OutputFormat) (digest : Bool)
    (input : String) : Outcome :=
  match files.parse .none activation input with
  | .error cause => .failure "" (input ++ ": " ++ cause.message)
  | .ok plan =>
      if digest then .success (plan.digest ++ "\n") else .success (render format plan.toTree)

/-- The line about a document, and whether the document is valid. -/
def verdict (files : Files) (activation : Activation) (input : String) : String × Bool :=
  match files.parse .none activation input with
  | .ok _ => (input ++ ": ok\n", true)
  | .error cause => (input ++ ": error: " ++ cause.message ++ "\n", false)

/-- Say of each document whether it is valid. -/
def runValidate (files : Files) (activation : Activation) (inputs : List String) : Outcome :=
  let verdicts := inputs.map (verdict files activation)
  let lines := String.join (verdicts.map (·.1))
  let failed := verdicts.countP fun verdict => !verdict.2
  let total := toString inputs.length
  if failed = 0 then .success (lines ++ "Validated " ++ total ++ " blueprint(s).\n")
  else
    .failure lines (toString failed ++ " of " ++ total ++ " blueprint(s) failed validation")

/-- The schema as a tree. -/
def schemaTree (activation : Activation) : Tree :=
  Form.record
    [("root", some (.string activation.registry.root)),
     ("definitions",
       some (.sequence (activation.registry.definitions.values.map Definition.toTree))),
     ("merge_policies", some activation.policies.toTree)]

/-- The lines about the built-in profiles. -/
def profileLines : String :=
  String.join (Profile.builtins.map fun profile =>
    if profile.description.isEmpty then profile.name ++ "\n"
    else profile.name ++ "\t" ++ profile.description ++ "\n")

/-- The name and the version of the program. -/
def versionLine : String :=
  "blueprint-parse 0.1.0\n"

/-! ## Help -/

/-- What a task or the program itself does. -/
def purpose : Option String → String
  | none => "Parse and validate infrastructure blueprints against profile schemas"
  | some "parse" => "Parse one blueprint and print its plan"
  | some "validate" => "Validate blueprints in parallel against one shared schema"
  | some "schema" => "Print the effective schema of a profile activation"
  | some _ => "List the built-in profiles"

/-- How a task or the program itself is called. -/
def callLine : Option String → String
  | none => "Usage: blueprint-parse [OPTIONS] <COMMAND>"
  | some "parse" => "Usage: blueprint-parse parse [OPTIONS] <INPUT>"
  | some "validate" => "Usage: blueprint-parse validate [OPTIONS] <INPUTS>..."
  | some task => "Usage: blueprint-parse " ++ task ++ " [OPTIONS]"

/-- Lines about options that several tasks share. -/
def setupLines : List String :=
  ["      --config <CONFIG>    Path to a parser configuration YAML file",
   "      --profile <PROFILE>  Built-in profile to activate (overrides the configuration's profile)"]

/-- The line about the output format. -/
def formatLine (usual : String) : String :=
  "      --format <FORMAT>    Output format [default: " ++ usual ++ "] [possible values: json, yaml]"

/-- Lines about options that every task has. -/
def commonLines (padding : String) : List String :=
  ["  -v, --verbose..." ++ padding ++
     "  Enable verbose output. Repeat for more verbosity (-v, -vv, -vvv)",
   "  -h, --help      " ++ padding ++ "  Print help"]

/-- The lines about what may be given to a task or to the program itself. -/
def detailLines : Option String → List String
  | none =>
      ["Commands:", "  parse     " ++ purpose (some "parse"),
       "  validate  " ++ purpose (some "validate"), "  schema    " ++ purpose (some "schema"),
       "  profiles  " ++ purpose (some "profiles"),
       "  help      Print this message or the help of the given subcommand(s)", "", "Options:"] ++
        commonLines "" ++ ["  -V, --version     Print version"]
  | some "parse" =>
      ["Arguments:", "  <INPUT>  Main blueprint document (JSON or YAML)", "", "Options:"] ++
        setupLines ++ [formatLine "json",
          "      --digest             Print only the plan's SHA-256 digest"] ++ commonLines "       "
  | some "validate" =>
      ["Arguments:", "  <INPUTS>...  Blueprint documents to validate", "", "Options:"] ++
        setupLines ++
        ["      --jobs <JOBS>        Number of parallel jobs (default: number of CPUs)"] ++
        commonLines "       "
  | some "schema" =>
      ["Options:"] ++ setupLines ++ [formatLine "yaml"] ++ commonLines "       "
  | some _ => ["Options:"] ++ commonLines ""

/-- The explanation of a task or of the program itself. -/
def helpText (task : Option String) : String :=
  String.join ((purpose task :: "" :: callLine task :: "" :: detailLines task).map (· ++ "\n"))

/-! ## The program -/

/-- Perform a task for which a schema is needed. -/
def withActivation (files : Files) (setup : Setup) (task : Activation → Outcome) : Outcome :=
  match activate files setup with
  | .error reason => .failure "" reason
  | .ok activation => task activation

/-- Perform a task. -/
def run (files : Files) : Command → Outcome
  | .parse setup format digest input =>
      withActivation files setup fun activation => runParse files activation format digest input
  | .validate setup inputs =>
      withActivation files setup fun activation => runValidate files activation inputs
  | .schema setup format =>
      withActivation files setup fun activation =>
        .success (render format (schemaTree activation))
  | .profiles => .success profileLines
  | .help task => .success (helpText task)
  | .version => .success versionLine

/-- Answer the command line. -/
def answer (files : Files) (arguments : List String) : Outcome :=
  match ofArguments? arguments with
  | some command => command.run files
  | none => ⟨2, "", "error: invalid arguments\n\n" ++ callLine none ++ "\n"⟩

/-! ## The files of a task -/

/-- The paths of the configuration and of the profile files that a task opens, as
far as the configuration can be read. -/
def setupPaths (files : Files) (setup : Setup) : List String :=
  match setup.config with
  | none => []
  | some path =>
      match Config.load files path with
      | .ok config => path :: config.profilePaths
      | .error _ => [path]

/-- The paths of a document and of everything that a file mentions, from the
document's directory. -/
def inputPaths (files : Files) (input : String) : List String :=
  let mentions := files.contents.flatMap Files.mentionedIn
  input :: (mentions.map (Files.join (Files.directory input)))

/-- Paths among which are all that a task opens next, as far as files are known. -/
def paths (files : Files) : Command → List String
  | .parse setup _ _ input => setupPaths files setup ++ inputPaths files input
  | .validate setup inputs => setupPaths files setup ++ inputs.flatMap (inputPaths files)
  | .schema setup _ => setupPaths files setup
  | _ => []

end Blueprint.Command
