import Blueprint.Proofs.Document.Content
import Blueprint.Schema.Registry

/-!
# The content of a schema

Definitions are compared with their defaults by content, for which the two float zeros
are one.  `Definition.content` is the definition in which no default has a signed zero:
definitions agree exactly if their contents are equal (`Definition.agrees_iff`), and
registries agree exactly if they hold definitions of the same content under the same names
and do not differ otherwise (`Registry.agrees_iff`).  So agreement is an equivalence.
-/

namespace Blueprint

namespace Field

/-- The field without the signs of zeros in its default. -/
def content (field : Field) : Field :=
  { field with default := field.default.map Tree.content }

theorem agrees_iff (left right : Field) :
    left.agrees right = true ↔ left.content = right.content := by
  rcases left with ⟨leftName, leftRequired, leftDefault⟩
  rcases right with ⟨rightName, rightRequired, rightDefault⟩
  cases leftDefault <;> cases rightDefault <;>
    simp [agrees, content, Tree.agrees_iff, and_assoc]

end Field

namespace Kind

/-- The shape without the signs of zeros in defaults. -/
def content : Kind → Kind
  | .composite fields => .composite (fields.mapValues fun _ => Field.content)
  | other => other

theorem fieldsAgree_iff (lefts rights : Entries Field) :
    fieldsAgree lefts rights = true ↔
      lefts.mapValues (fun _ => Field.content) = rights.mapValues fun _ => Field.content := by
  induction lefts generalizing rights with
  | nil => cases rights <;> simp [fieldsAgree, Entries.mapValues]
  | cons left lefts ih =>
      cases rights with
      | nil => simp [fieldsAgree, Entries.mapValues]
      | cons right rights =>
          simp only [Entries.mapValues] at ih
          simp [fieldsAgree, Entries.mapValues, Field.agrees_iff, ih]

theorem agrees_iff (left right : Kind) :
    left.agrees right = true ↔ left.content = right.content := by
  cases left with
  | composite lefts =>
      cases right with
      | composite rights =>
          simp only [agrees, content, fieldsAgree_iff, Kind.composite.injEq]
          exact ⟨fun same => Dict.ext same, congrArg Dict.entries⟩
      | _ => simp [agrees, content]
  | _ => cases right <;> simp [agrees, content]

end Kind

namespace Definition

/-- The definition without the signs of zeros in defaults. -/
def content (definition : Definition) : Definition :=
  { definition with kind := definition.kind.content }

theorem agrees_iff (left right : Definition) :
    left.agrees right = true ↔ left.content = right.content := by
  rcases left with ⟨leftName, leftKind, leftRules⟩
  rcases right with ⟨rightName, rightKind, rightRules⟩
  simp [agrees, content, Kind.agrees_iff, and_assoc]

end Definition

/-- Entries agree one by one exactly if their contents are equal. -/
theorem Definition.entriesAgree_iff (lefts rights : Entries Definition) :
    (lefts.length == rights.length &&
      (lefts.zip rights).all fun pair => pair.1.1 == pair.2.1 && pair.1.2.agrees pair.2.2) = true ↔
    Entries.mapValues (fun _ => content) lefts = Entries.mapValues (fun _ => content) rights := by
  induction lefts generalizing rights with
  | nil => cases rights <;> simp [Entries.mapValues]
  | cons left lefts ih =>
      cases rights with
      | nil => simp [Entries.mapValues]
      | cons right rights =>
          simp only [Entries.mapValues, Bool.and_eq_true, beq_iff_eq] at ih
          simp [Entries.mapValues, ← ih, agrees_iff, and_assoc, and_left_comm]

namespace Registry

/-- The definitions without the signs of zeros in defaults. -/
def contents (registry : Registry) : Dict Definition :=
  registry.definitions.mapValues fun _ => Definition.content

theorem get?_contents (registry : Registry) (name : String) :
    registry.contents.get? name = (registry.definition? name).map Definition.content :=
  Dict.get?_mapValues _ _ _

theorem agrees_iff (left right : Registry) :
    left.agrees right = true ↔
      left.contents = right.contents ∧ left.root = right.root ∧
        left.contributed = right.contributed ∧ left.patterns.keys = right.patterns.keys ∧
        left.placement = right.placement ∧ left.frozen = right.frozen := by
  have sameContents : left.contents = right.contents ↔
      Entries.mapValues (fun _ => Definition.content) left.definitions.entries =
        Entries.mapValues (fun _ => Definition.content) right.definitions.entries :=
    ⟨congrArg Dict.entries, fun same => Dict.ext same⟩
  rw [sameContents, ← Definition.entriesAgree_iff]
  simp [agrees, and_assoc]

end Registry

end Blueprint
