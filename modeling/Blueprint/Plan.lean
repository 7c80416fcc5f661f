import Blueprint.Dict
import Blueprint.Digest
import Blueprint.Instance.Basic
import Blueprint.Json.Printer
import Blueprint.Text.Split

/-!
# Plans

A plan is what remains of a document that has been read and validated: one value
for each section.  Its digest is that of its canonical text.
-/

namespace Blueprint

/-- A section would occur twice. -/
inductive EmitError where
  | duplicateSection (name : String)
deriving DecidableEq

/-- The text of an error. -/
def EmitError.message : EmitError → String
  | .duplicateSection name => "duplicate plan section: " ++ name

/-- The sections of a document with their values. -/
structure Plan where
  /-- The sections. -/
  sections : Dict Tree

namespace Plan

/-- The value of a section. -/
def get? (plan : Plan) (name : String) : Option Tree :=
  plan.sections.get? name

/-- Whether a plan has a section. -/
def contains (plan : Plan) (name : String) : Bool :=
  plan.sections.contains name

/-- A plan as a tree. -/
def toTree (plan : Plan) : Tree :=
  .mapping plan.sections.entries

/-- Equality of plans, with values compared by content. -/
def agrees (left right : Plan) : Bool :=
  left.toTree.agrees right.toTree

/-- Read a plan from a mapping. -/
def ofTree? : Tree → Option Plan
  | .mapping entries => some ⟨Dict.ofList entries⟩
  | _ => none

/-- The hexadecimal digest of the canonical text. -/
def digest (plan : Plan) : String :=
  Digest.ofText (Json.text plan.toTree)

/-- The list index that a step stands for: digits after an optional plus sign.  There is
no bound on it, for beyond 64 bits it is beyond every list that can be held. -/
def index? (step : String) : Option Nat :=
  let digits :=
    match step.toList with
    | '+' :: rest => rest
    | rest => rest
  if digits.isEmpty || !digits.all Char.isDigit then none
  else some (digits.foldl (fun value digit => 10 * value + (digit.toNat - '0'.toNat)) 0)

/-- One step down from a tree: by key or by index. -/
def step? (tree : Tree) (step : String) : Option Tree :=
  match tree with
  | .mapping entries => Entries.get? entries step
  | .sequence items => (index? step).bind fun index => items[index]?
  | _ => none

/-- Steps down from a tree. -/
def descend? (tree : Tree) : List String → Option Tree
  | [] => some tree
  | step :: rest => (step? tree step).bind fun part => descend? part rest

/-- The part of a plan at a dotted path: a section and steps down from it. -/
def lookUp? (plan : Plan) (path : String) : Option Tree :=
  match Text.parts '.' path with
  | [] => none
  | name :: steps => (plan.get? name).bind fun tree => descend? tree steps

/-- Add a section, which must be new. -/
def insertSection (plan : Plan) (name : String) (value : Tree) : Except EmitError Plan :=
  if plan.contains name then .error (.duplicateSection name)
  else .ok ⟨plan.sections.insert name value⟩

/-- Add sections in order, which must all be new. -/
def insertSections (plan : Plan) : List (String × Tree) → Except EmitError Plan
  | [] => .ok plan
  | (name, value) :: rest =>
      match plan.insertSection name value with
      | .error cause => .error cause
      | .ok plan => plan.insertSections rest

/-- The plan of a root whose value is a mapping, and of further sections, which
must be new. -/
def emit (root : Instance) (extras : List (String × Instance)) : Except EmitError Plan :=
  let sections :=
    match root.value with
    | .mapping entries => Dict.ofList entries
    | _ => ∅
  insertSections ⟨sections⟩ (extras.map fun extra => (extra.1, extra.2.value))

end Plan

end Blueprint
