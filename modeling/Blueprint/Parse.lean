import Blueprint.Document.Imports
import Blueprint.Instance.Validation
import Blueprint.Placement

/-!
# Parsing

Documents become a plan in four steps: they are merged, built, validated and
emitted.  Each step needs the one before it, and the first failure is the answer.
Parsing takes a frozen registry.
-/

namespace Blueprint

/-- Why a document does not become a plan. -/
inductive ParseError where
  /-- The registry may still change. -/
  | registryNotFrozen
  | resolve (cause : ResolveError)
  | merge (cause : MergeError)
  | structural (cause : StructuralError)
  | semantic (cause : SemanticError)
  | emit (cause : EmitError)
deriving DecidableEq

/-- The text of an error. -/
def ParseError.message : ParseError → String
  | .registryNotFrozen => "registry must be frozen before parsing"
  | .resolve cause => "import resolution failed: " ++ cause.message
  | .merge cause => "merge failed: " ++ cause.message
  | .structural cause => "structural error: " ++ cause.message
  | .semantic cause => "semantic error: " ++ cause.message
  | .emit cause => "emit failed: " ++ cause.message

namespace Registry

/-- Build a merged document against the root definition. -/
def structural (registry : Registry) (merged : Tree) : Except StructuralError Instance :=
  Instance.build registry registry.root merged

/-- The null sections of contributed fields that a plan lacks. -/
def absentSections (keys : List String) (plan : Plan) : List (String × Tree) :=
  (keys.filter fun key => !plan.contains key).map fun key => (key, .null)

/-- Emit the plan of a validated root.  The fields that profiles contributed are
sections in any case, null if the document does not give them.  Host placement
comes last. -/
def emit (registry : Registry) (root : Instance) : Except EmitError Plan :=
  let contributed := registry.contributedFields registry.root
  let extras := contributed.filterMap fun key => (root.child? key).map fun child => (key, child)
  match Plan.emit (root.withoutFields contributed) extras with
  | .error cause => .error cause
  | .ok plan =>
      match plan.insertSections (absentSections contributed plan) with
      | .error cause => .error cause
      | .ok plan =>
          match registry.placement with
          | none => .ok plan
          | some placement => placement.assemble plan

end Registry

/-- The plan of a merged document. -/
def parseMerged (checks : Checks) (registry : Registry) (merged : Tree) : Except ParseError Plan :=
  match registry.structural merged with
  | .error cause => .error (.structural cause)
  | .ok root =>
      match Validation.validate checks registry root with
      | .error cause => .error (.semantic cause)
      | .ok () =>
          match registry.emit root with
          | .error cause => .error (.emit cause)
          | .ok plan => .ok plan

/-- Merge documents and parse the result. -/
def parse (checks : Checks) (registry : Registry) (sources : List Source) (policies : PolicyTable) :
    Except ParseError Plan :=
  if registry.frozen then
    match merge sources policies with
    | .error cause => .error (.merge cause)
    | .ok merged => parseMerged checks registry merged
  else .error .registryNotFrozen

/-- Parse a document with everything that it imports. -/
def parseDocument (checks : Checks) (registry : Registry) (main : Source) (resolver : Resolver)
    (policies : PolicyTable) : Except ParseError Plan :=
  if registry.frozen then
    match Imports.collect main resolver with
    | .error cause => .error (.resolve cause)
    | .ok sources => parse checks registry sources policies
  else .error .registryNotFrozen

end Blueprint
