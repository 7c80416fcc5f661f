/-!
# Command line arguments

The command line names one of four tasks, with options and inputs.  Options may
come before, between and after inputs, but the task comes first.  Help and the
version are answered as soon as they are asked for; anything that is not
understood before that is an error.
-/

namespace Blueprint

/-- Where the schema of a task comes from. -/
structure Setup where
  /-- The path of a configuration. -/
  config : Option String
  /-- A built-in profile in place of that of the configuration. -/
  profile : Option String
deriving DecidableEq

/-- How trees are printed. -/
inductive OutputFormat where
  | json
  | yaml
deriving DecidableEq

/-- What the command line asks for. -/
inductive Command where
  /-- Print the plan of a document or only its digest. -/
  | parse (setup : Setup) (format : OutputFormat) (digest : Bool) (input : String)
  /-- Say of each document whether it is valid. -/
  | validate (setup : Setup) (inputs : List String)
  /-- Print the schema. -/
  | schema (setup : Setup) (format : OutputFormat)
  /-- List the built-in profiles. -/
  | profiles
  /-- Explain the program or one of its tasks. -/
  | help (task : Option String)
  | version
deriving DecidableEq

namespace Command

/-- The tasks. -/
def taskNames : List String :=
  ["parse", "validate", "schema", "profiles"]

/-- What may be given to a task. -/
structure Usage where
  /-- Its name. -/
  task : String
  /-- The options that have a value. -/
  options : List String
  /-- Whether only the digest may be asked for. -/
  digest : Bool
  /-- The greatest number of inputs, if there is one. -/
  inputLimit : Option Nat

/-- What may be given to a task of a name. -/
def usage? (task : String) : Option Usage :=
  let setup := ["--config", "--profile"]
  match task with
  | "parse" => some ⟨task, setup ++ ["--format"], true, some 1⟩
  | "validate" => some ⟨task, setup ++ ["--jobs"], false, none⟩
  | "schema" => some ⟨task, setup ++ ["--format"], false, some 0⟩
  | "profiles" => some ⟨task, [], false, some 0⟩
  | _ => none

/-- What has been given to a task. -/
structure Given where
  /-- The options with their values. -/
  values : List (String × String)
  /-- Whether only the digest is asked for. -/
  digest : Bool
  /-- The inputs. -/
  inputs : List String

/-- Whether an argument is an option rather than an input. -/
def isOption (argument : String) : Bool :=
  match argument.toList with
  | '-' :: _ :: _ => true
  | _ => false

/-- Whether a text is a count of at most 64 bits, perhaps after a plus sign. -/
def isCount (text : String) : Bool :=
  let digits :=
    match text.toList with
    | '+' :: rest => rest
    | rest => rest
  !digits.isEmpty && digits.all Char.isDigit &&
    digits.foldl (fun count digit => 10 * count + (digit.toNat - '0'.toNat)) 0 < UInt64.size

/-- Whether an option takes a value. -/
def takes (option value : String) : Bool :=
  match option with
  | "--config" => !value.isEmpty
  | "--format" => value == "json" || value == "yaml"
  | "--jobs" => isCount value
  | _ => true

/-- The short options in one argument: whether one of them asks for help.  None if
one is not known. -/
def shortOptions? : List Char → Option Bool
  | [] => some false
  | 'v' :: rest => shortOptions? rest
  | 'h' :: _ => some true
  | _ => none

/-- The result of reading arguments. -/
inductive Reading (α : Type) where
  | done (value : α)
  | help
  | misuse

/-- Add an input. -/
def Given.addInput? (usage : Usage) (given : Given) (input : String) : Option Given :=
  if input.isEmpty || usage.inputLimit.any (· ≤ given.inputs.length) then none
  else some { given with inputs := given.inputs ++ [input] }

/-- Add an option with its value. -/
def Given.addValue? (usage : Usage) (given : Given) (option value : String) : Option Given :=
  if usage.options.contains option && (given.values.lookup option).isNone && takes option value then
    some { given with values := given.values ++ [(option, value)] }
  else none

/-- The name and the value of an option that has its value after an equals sign. -/
def joined? (argument : String) : Option (String × String) :=
  let characters := argument.toList
  let name := characters.takeWhile (· != '=')
  if name.length < characters.length then
    some (String.ofList name, String.ofList (characters.drop (name.length + 1)))
  else none

/-- Add inputs. -/
def readInputs (usage : Usage) (given : Given) (inputs : List String) : Reading Given :=
  match inputs.foldlM (Given.addInput? usage) given with
  | some given => .done given
  | none => .misuse

/-- Read the arguments of a task. -/
def read (usage : Usage) : Given → List String → Reading Given
  | given, [] => .done given
  | given, "--" :: rest => readInputs usage given rest
  | _, "--help" :: _ => .help
  | given, "--verbose" :: rest => read usage given rest
  | given, "--digest" :: rest =>
      if usage.digest && !given.digest then read usage { given with digest := true } rest
      else .misuse
  | given, argument :: rest =>
      if !isOption argument then
        match given.addInput? usage argument with
        | some given => read usage given rest
        | none => .misuse
      else if !"--".toList.isPrefixOf argument.toList then
        match shortOptions? (argument.toList.drop 1) with
        | some false => read usage given rest
        | some true => .help
        | none => .misuse
      else
        match joined? argument with
        | some (option, value) =>
            match given.addValue? usage option value with
            | some given => read usage given rest
            | none => .misuse
        | none =>
            match rest with
            | [] => .misuse
            | value :: rest =>
                if isOption value then .misuse
                else
                  match given.addValue? usage argument value with
                  | some given => read usage given rest
                  | none => .misuse

/-- The task for what has been given to it. -/
def ofGiven? (task : String) (given : Given) : Option Command :=
  let setup : Setup := ⟨given.values.lookup "--config", given.values.lookup "--profile"⟩
  let format (usual : OutputFormat) : OutputFormat :=
    match given.values.lookup "--format" with
    | some "json" => .json
    | some "yaml" => .yaml
    | _ => usual
  match task, given.inputs with
  | "parse", [input] => some (.parse setup (format .json) given.digest input)
  | "validate", _ :: _ => some (.validate setup given.inputs)
  | "schema", [] => some (.schema setup (format .yaml))
  | "profiles", [] => some .profiles
  | _, _ => none

/-- Read the arguments of a task of a name. -/
def ofTask? (task : String) (arguments : List String) : Option Command := do
  let usage ← usage? task
  match read usage ⟨[], false, []⟩ arguments with
  | .help => some (.help (some task))
  | .misuse => none
  | .done given => ofGiven? task given

/-- What a question for help is about. -/
def ofHelp? : List String → Option Command
  | [] => some (.help none)
  | [task] =>
      if taskNames.contains task then some (.help (some task))
      else if task == "help" then some (.help none)
      else none
  | _ => none

/-- Read the arguments before the task. -/
def ofArguments? : List String → Option Command
  | [] => none
  | "--help" :: _ => some (.help none)
  | "--version" :: _ => some .version
  | "--verbose" :: rest => ofArguments? rest
  | "help" :: rest => ofHelp? rest
  | argument :: rest =>
      if isOption argument && !"--".toList.isPrefixOf argument.toList then
        match (argument.toList.drop 1).dropWhile (· == 'v') with
        | [] => ofArguments? rest
        | 'h' :: _ => some (.help none)
        | 'V' :: _ => some .version
        | _ => none
      else ofTask? argument rest

end Command

end Blueprint
