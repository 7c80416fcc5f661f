import Blueprint.Schema.Registry

/-!
# Freezing a registry

A registry can be used once every name that a definition refers to is registered,
every validator can be used, and no definition refers back to itself through
others.  `Registry.freeze` checks this over all definitions, reachable from the
root or not, and prepares the patterns.

Circles are found by walking the references depth first.  Names on the path of
the walk and names that are finished are kept apart: meeting the first closes a
circle, meeting the second is no news.
-/

namespace Blueprint.Registry

/-- The definitions that a name refers to. -/
def references (registry : Registry) (name : String) : List String :=
  match registry.definition? name with
  | none => []
  | some definition => definition.kind.references

/-- The first name that a definition refers to and that is not registered. -/
def unresolved? (registry : Registry) (definition : Definition) : Option String :=
  definition.kind.references.find? fun reference => !registry.definitions.contains reference

/-- Prepare the validators of a definition, adding their patterns. -/
def prepareAll (name : String) (patterns : Dict Pattern) :
    List Validator → Except ExtensionError (Dict Pattern)
  | [] => .ok patterns
  | validator :: rest =>
      match validator.prepare with
      | .error defect => .error (.invalidValidator name defect)
      | .ok none => prepareAll name patterns rest
      | .ok (some pattern) => prepareAll name (patterns.insert pattern.source pattern) rest

/-- Check the references and validators of definitions in order, adding the
patterns. -/
def prepareDefinitions (registry : Registry) (patterns : Dict Pattern) :
    List Definition → Except ExtensionError (Dict Pattern)
  | [] => .ok patterns
  | definition :: rest =>
      match registry.unresolved? definition with
      | some reference => .error (.unresolvedReference definition.name reference)
      | none =>
          match prepareAll definition.name patterns definition.validators with
          | .error cause => .error cause
          | .ok patterns => registry.prepareDefinitions patterns rest

/-- Walk the references from a name depth first.  `path` leads to the name and
`finished` are the names that lead into no circle.  Answers the finished names or
a circle.  A path without repetition is no longer than the number of names, which
`levels` counts down from. -/
def explore (registry : Registry) : (levels : Nat) → (path finished : List String) →
    (name : String) → Except (List String) (List String)
  | 0, _, finished, name => .ok (name :: finished)
  | levels + 1, path, finished, name =>
      if finished.contains name then .ok finished
      else
        match path.idxOf? name with
        | some start => .error (path.drop start ++ [name])
        | none =>
            match (registry.references name).foldlM
                (fun finished reference => explore registry levels (path ++ [name]) finished reference)
                finished with
            | .error circle => .error circle
            | .ok finished => .ok (name :: finished)

/-- The first circle met when walking from every name in order. -/
def circle? (registry : Registry) : Option (List String) :=
  let names := registry.definitions.keys
  match names.foldlM (fun finished name => registry.explore (names.length + 1) [] finished name) [] with
  | .error circle => some circle
  | .ok _ => none

/-- Check a registry and keep it from changing.  Freezing again has no effect. -/
def freeze (registry : Registry) : Except ExtensionError Registry :=
  if registry.frozen then .ok registry
  else
    match registry.prepareDefinitions ∅ registry.definitions.values with
    | .error cause => .error cause
    | .ok patterns =>
        match registry.circle? with
        | some circle => .error (.cycle circle)
        | none => .ok { registry with patterns, frozen := true }

/-- Register base definitions, apply directives and freeze. -/
def build (root : String) (base : List Definition) (directives : List Directive) :
    Except ExtensionError Registry :=
  match register root base with
  | .error cause => .error cause
  | .ok registry =>
      match registry.apply directives with
      | .error cause => .error cause
      | .ok registry => registry.freeze

end Blueprint.Registry
