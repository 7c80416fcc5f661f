import Blueprint.Schema.Definition

/-!
# Extension directives

A directive changes one definition of a schema, its target: it replaces the
definition, adds a field to it, or adds rules to it.  The definitions to which a
new part refers may be supplied along with it.
-/

namespace Blueprint

/-- A change to a schema. -/
inductive Directive where
  /-- Put a definition in place of the target, under the target's name. -/
  | replace (target : String) (definition : Definition) (supporting : List Definition)
  /-- Add a field to a composite. -/
  | addToSchema (target key : String) (definition : Definition) (required : Bool)
      (supporting : List Definition)
  /-- Append rules. -/
  | addBehavior (target : String) (validators : List Validator)

namespace Directive

/-- The definition that is changed. -/
def target : Directive → String
  | .replace target _ _ => target
  | .addToSchema target _ _ _ _ => target
  | .addBehavior target _ => target

/-- The name of the kind of change. -/
def action : Directive → String
  | .replace .. => "replace"
  | .addToSchema .. => "add_to_schema"
  | .addBehavior .. => "add_behavior"

/-- Make an added field one that must be given. -/
def required : Directive → Directive
  | .addToSchema target key definition _ supporting =>
      .addToSchema target key definition true supporting
  | other => other

/-- Supply further definitions.  Rules need none. -/
def withSupporting (directive : Directive) (definitions : List Definition) : Directive :=
  match directive with
  | .replace target definition supporting =>
      .replace target definition (supporting ++ definitions)
  | .addToSchema target key definition required supporting =>
      .addToSchema target key definition required (supporting ++ definitions)
  | other => other

end Directive

/-- The names that drive host placement. -/
structure HostPlacement where
  /-- The node type that makes a template a host. -/
  hostType : String
  /-- The relationship type that links a template to its container. -/
  containedIn : String
  /-- The executor whose plugins are installed on hosts. -/
  hostExecutor : String
deriving DecidableEq

end Blueprint
