import Blueprint.Proofs.Schema.Activation

/-!
# The links of the base vocabulary

The checks of references rest on a few properties of base definitions: that node
templates have a type, that the type is a string which must name a node type, and so
on from the root down.  `Vocabulary.links` lists these properties.  They survive all
additions, so they hold in every activated registry unless a profile replaces one
of the definitions (`Profile.activate_linked`).
-/

namespace Blueprint

/-- A property of a definition on which the checking of references rests. -/
inductive Link where
  /-- A composite has a field without a default. -/
  | field (owner key target : String) (required : Bool)
  /-- A map has items of a definition. -/
  | map (owner item : String)
  /-- A list has items of a definition. -/
  | list (owner item : String)
  /-- A string leaf must name an entry of a section. -/
  | reference (owner part : String)
  /-- A node must not be empty. -/
  | filled (owner : String)
deriving DecidableEq

namespace Link

/-- The name of the definition that has the property. -/
def owner : Link → String
  | .field owner _ _ _ => owner
  | .map owner _ => owner
  | .list owner _ => owner
  | .reference owner _ => owner
  | .filled owner => owner

/-- Whether a definition has the property. -/
def HoldsOf : Link → Definition → Prop
  | .field _ key target required, definition =>
      ∃ fields, definition.kind = .composite fields ∧
        fields.get? key = some ⟨target, required, none⟩
  | .map _ item, definition => definition.kind = .map item
  | .list _ item, definition => definition.kind = .list item
  | .reference _ part, definition =>
      definition.kind = .leaf .string ∧ Validator.namesEntryOf part ∈ definition.validators
  | .filled _, definition => Validator.filled ∈ definition.validators

/-- Additions to a definition leave its properties. -/
theorem HoldsOf.of_extends {link : Link} {older newer : Definition}
    (holds : link.HoldsOf older) (grows : Definition.Extends older newer) :
    link.HoldsOf newer := by
  rcases grows with ⟨kinds, validators⟩
  cases link with
  | field owner key target required =>
      rcases holds with ⟨fields, kind, declared⟩
      rw [kind] at kinds
      cases newKind : newer.kind with
      | composite more =>
          rw [newKind] at kinds
          exact ⟨more, newKind, kinds key _ declared⟩
      | _ =>
          rw [newKind] at kinds
          contradiction
  | map owner item =>
      rw [show older.kind = .map item from holds] at kinds
      exact Eq.symm kinds
  | list owner item =>
      rw [show older.kind = .list item from holds] at kinds
      exact Eq.symm kinds
  | reference owner part =>
      rw [holds.1] at kinds
      exact ⟨Eq.symm kinds, validators holds.2⟩
  | filled owner => exact validators holds

end Link

namespace Vocabulary

/-- The definitions on the way from the root to the leaves that are references. -/
def referencing : List String :=
  ["blueprint", "node_types", "node_type", "node_type_parent", "relationships", "relationship",
    "relationship_parent", "node_templates", "node_template", "node_template_type",
    "node_template_relationships", "node_template_relationship", "relationship_type",
    "relationship_target", "groups", "group", "group_members", "group_member"]

/-- What the base vocabulary says of references and of the way to them. -/
def links : List Link :=
  [.field "blueprint" "node_types" "node_types" false,
    .field "blueprint" "relationships" "relationships" false,
    .field "blueprint" "node_templates" "node_templates" false,
    .field "blueprint" "groups" "groups" false,
    .map "node_types" "node_type",
    .field "node_type" "derived_from" "node_type_parent" false,
    .reference "node_type_parent" "node_types",
    .map "relationships" "relationship",
    .field "relationship" "derived_from" "relationship_parent" false,
    .reference "relationship_parent" "relationships",
    .map "node_templates" "node_template",
    .field "node_template" "type" "node_template_type" true,
    .reference "node_template_type" "node_types",
    .field "node_template" "relationships" "node_template_relationships" false,
    .list "node_template_relationships" "node_template_relationship",
    .field "node_template_relationship" "type" "relationship_type" true,
    .reference "relationship_type" "relationships",
    .field "node_template_relationship" "target" "relationship_target" true,
    .reference "relationship_target" "node_templates",
    .map "groups" "group",
    .field "group" "members" "group_members" true,
    .list "group_members" "group_member",
    .filled "group_members",
    .reference "group_member" "node_templates"]

theorem owner_mem_referencing : ∀ link ∈ links, link.owner ∈ referencing := by
  decide

/-- The links hold in the base vocabulary. -/
theorem links_hold : ∀ link ∈ links, ∃ definition,
    definitions.find? (·.name = link.owner) = some definition ∧ link.HoldsOf definition := by
  intro link member
  simp only [links, List.mem_cons, List.not_mem_nil, or_false] at member
  rcases member with rfl | rfl | rfl | rfl | rfl | rfl | rfl | rfl | rfl | rfl | rfl | rfl | rfl |
    rfl | rfl | rfl | rfl | rfl | rfl | rfl | rfl | rfl | rfl | rfl
  all_goals first
    | exact ⟨_, rfl, _, rfl, rfl⟩
    | exact ⟨_, rfl, rfl⟩
    | exact ⟨_, rfl, rfl, List.mem_singleton_self _⟩
    | exact ⟨_, rfl, List.mem_singleton_self _⟩

end Vocabulary

/-- A registry for documents of the base vocabulary in which all links hold. -/
structure Registry.Linked (registry : Registry) : Prop where
  root : registry.root = Vocabulary.root
  holds : ∀ link ∈ Vocabulary.links, ∃ definition,
    registry.definition? link.owner = some definition ∧ link.HoldsOf definition

/-- Whatever else profiles do, the links hold as long as none of the definitions on
the way to a reference is replaced. -/
theorem Profile.activate_linked {profiles : List Profile} {activation : Activation}
    (activated : activate profiles = .ok activation)
    (spares : ∀ profile ∈ profiles, ∀ directive ∈ profile.directives,
      ∀ name ∈ Vocabulary.referencing, directive.replaced? ≠ some name) :
    activation.registry.Linked := by
  obtain ⟨root, keeps⟩ := activate_keeps activated spares
  constructor
  · exact root
  · intro link member
    obtain ⟨definition, isBase, holds⟩ := Vocabulary.links_hold link member
    obtain ⟨extended, known, grows⟩ :=
      keeps link.owner (Vocabulary.owner_mem_referencing link member) definition isBase
    exact ⟨extended, known, holds.of_extends grows⟩

end Blueprint
