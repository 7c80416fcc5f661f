import Blueprint.Proofs.Instance.Obligations
import Blueprint.Proofs.Plan.Emission
import Blueprint.Proofs.Schema.Links

/-!
# References in a plan

In the plan of an accepted document every reference names an entry that is there:
the types of node templates, the types and targets of their relationships, the
parents of types and the members of groups.  `parse_referencesHold` proves this for
every list of profiles that replaces no definition on the way to a reference.

The proof follows the links of the vocabulary from the root down.  `Stands` says that
a node of the document was built against a definition; each link carries it from a
node to its parts, and at a reference the validator that is still there has looked
the name up in a section of the root, which is the section of the plan.
-/

namespace Blueprint

namespace Plan

/-- A value that is the name of an entry of a section. -/
def Names (plan : Plan) (part : String) (value : Option Tree) : Prop :=
  ∃ name, value = some (.string name) ∧ name ∈ Entries.keys (Placement.sectionEntries plan part)

/-- A plan in which no reference dangles. -/
structure ReferencesHold (plan : Plan) : Prop where
  /-- The sections that hold references are mappings, if they are given. -/
  sections : ∀ part ∈ ["node_types", "relationships", "node_templates", "groups"], ∀ value,
    plan.get? part = some value → value = .null ∨ ∃ entries, value = .mapping entries
  /-- Node types derive from node types. -/
  nodeTypes : ∀ entry ∈ Placement.sectionEntries plan "node_types", ∀ parent,
    entry.2.get? "derived_from" = some parent → plan.Names "node_types" (some parent)
  /-- Relationships derive from relationships. -/
  relationships : ∀ entry ∈ Placement.sectionEntries plan "relationships", ∀ parent,
    entry.2.get? "derived_from" = some parent → plan.Names "relationships" (some parent)
  /-- Node templates have a node type. -/
  templates : ∀ entry ∈ Placement.sectionEntries plan "node_templates",
    plan.Names "node_types" (entry.2.get? "type")
  /-- The relationships of a node template have a type and lead to a node template. -/
  templateRelationships : ∀ entry ∈ Placement.sectionEntries plan "node_templates", ∀ value,
    entry.2.get? "relationships" = some value →
    ∃ items, value = .sequence items ∧ ∀ item ∈ items,
      plan.Names "relationships" (item.get? "type") ∧
      plan.Names "node_templates" (item.get? "target")
  /-- Groups have members, which are node templates. -/
  groups : ∀ entry ∈ Placement.sectionEntries plan "groups",
    ∃ members, entry.2.get? "members" = some (.sequence members) ∧ members ≠ [] ∧
      ∀ member ∈ members, plan.Names "node_templates" (some member)

end Plan

/-! ## Following links -/

/-- A document that was accepted against linked definitions. -/
structure Accepted (checks : Checks) (registry : Registry) (root : Instance) : Prop where
  frozen : registry.Frozen
  linked : registry.Linked
  valid : Validation.validate checks registry root = .ok ()

/-- A node of a document that was built against the definition of a name. -/
def Stands (registry : Registry) (root : Instance) (target : String) (node : Instance) : Prop :=
  ∃ ancestors name path raw, Validation.Encloses root ancestors node ∧
    Built registry target name path raw node

/-- A part of a node stands in the document as well. -/
theorem Stands.of_part {registry : Registry} {root node part : Instance}
    {ancestors : List Instance} {target name : String} {path : Path} {raw : Tree}
    (encloses : Validation.Encloses root ancestors node) (member : part ∈ node.children)
    (built : Built registry target name path raw part) : Stands registry root target part :=
  ⟨node :: ancestors, name, path, raw, encloses.child member, built⟩

/-- A reference that passes its check names an entry of the section. -/
theorem mem_sectionNames_of_run {checks : Checks} {registry : Registry} {header : Header}
    {text part : String} {ancestors : List Instance}
    (passed : (Validator.namesEntryOf part).run checks
      ⟨registry, .leaf header (.string text), ancestors⟩ = .ok ()) :
    text ∈ Validator.sectionNames ⟨registry, .leaf header (.string text), ancestors⟩ part := by
  unfold Validator.namesEntryOf Validator.run at passed
  dsimp only [Validator.referred] at passed
  split at passed
  · contradiction
  · next known =>
      rw [List.find?_singleton] at known
      simpa using known

theorem Instance.get?_value (header : Header) (children : Entries Instance) (key : String) :
    (Instance.fields header children).value.get? key =
      (Entries.get? children key).map Instance.value := by
  rw [Instance.value, Instance.valueEntries_eq_mapValues]
  exact Entries.get?_mapValues (fun _ => Instance.value) children key

section Links

variable {checks : Checks} {registry : Registry} {root node : Instance} {owner : String}
  (accepted : Accepted checks registry root) (stands : Stands registry root owner node)

include accepted stands

theorem Stands.fields {key target : String} {required : Bool}
    (link : Link.field owner key target required ∈ Vocabulary.links) :
    ∃ header children, node = .fields header children ∧ Entries.Ascending children ∧
      (∀ child, Entries.get? children key = some child → Stands registry root target child) ∧
      (required = true → ∃ child, Entries.get? children key = some child) := by
  obtain ⟨definition, known, fields, kind, declared⟩ := accepted.linked.holds _ link
  rcases stands with ⟨ancestors, name, path, raw, encloses, built⟩
  have shape := built.inversion known
  rw [kind] at shape
  rcases shape with ⟨entries, children, _, rfl, ascending, present, dispensable, each⟩
  have stand : ∀ child, Entries.get? children key = some child →
      Stands registry root target child := by
    intro child isChild
    obtain ⟨field, value, isField, chosen⟩ := (present key).mp ⟨child, isChild⟩
    cases declared.symm.trans isField
    exact Stands.of_part encloses (Entries.mem_values_of_get? isChild)
      (each key _ value child declared chosen isChild)
  have given : required = true → ∃ child, Entries.get? children key = some child := by
    rintro rfl
    rw [present key]
    cases chosen : (⟨target, true, none⟩ : Field).chosen? (Entries.get? entries key) with
    | some value => exact ⟨_, value, declared, chosen⟩
    | none =>
        have optional := dispensable key _ declared chosen
        contradiction
  exact ⟨_, children, rfl, ascending, stand, given⟩

theorem Stands.entries {item : String} (link : Link.map owner item ∈ Vocabulary.links) :
    ∃ header children, node = .entries header children ∧
      ∀ entry ∈ children, Stands registry root item entry.2 := by
  obtain ⟨definition, known, kind⟩ := accepted.linked.holds _ link
  rcases stands with ⟨ancestors, name, path, raw, encloses, built⟩
  have shape := built.inversion known
  rw [show definition.kind = .map item from kind] at shape
  rcases shape with ⟨entries, children, _, rfl, keys, each⟩
  have stand : ∀ entry ∈ children, Stands registry root item entry.2 := by
    rintro ⟨key, child⟩ member
    obtain ⟨index, isChild⟩ := List.mem_iff_getElem?.mp member
    obtain ⟨value, isEntry⟩ := Entries.exists_getElem?_of_keys keys isChild
    exact Stands.of_part encloses (List.mem_map_of_mem member)
      (each index key value child isEntry isChild)
  exact ⟨_, children, rfl, stand⟩

theorem Stands.items {item : String} (link : Link.list owner item ∈ Vocabulary.links) :
    ∃ header children, node = .items header children ∧
      ∀ child ∈ children, Stands registry root item child := by
  obtain ⟨definition, known, kind⟩ := accepted.linked.holds _ link
  rcases stands with ⟨ancestors, name, path, raw, encloses, built⟩
  have shape := built.inversion known
  rw [show definition.kind = .list item from kind] at shape
  rcases shape with ⟨items, children, _, rfl, length, each⟩
  have stand : ∀ child ∈ children, Stands registry root item child := by
    intro child member
    obtain ⟨index, inside, rfl⟩ := List.mem_iff_getElem.mp member
    have isItem := List.getElem?_eq_getElem (length ▸ inside)
    exact Stands.of_part encloses member
      (each index _ _ isItem (List.getElem?_eq_getElem inside))
  exact ⟨_, children, rfl, stand⟩

/-- A rule of a base definition was checked on every node that stands for it. -/
theorem Stands.run {link : Link} (member : link ∈ Vocabulary.links) (own : link.owner = owner)
    (validator : Validator)
    (rule : ∀ definition, link.HoldsOf definition → validator ∈ definition.validators) :
    ∃ ancestors, Validation.Encloses root ancestors node ∧
      validator.run checks ⟨registry, node, ancestors⟩ = .ok () := by
  obtain ⟨definition, known, holds⟩ := accepted.linked.holds link member
  rcases stands with ⟨ancestors, name, path, raw, encloses, built⟩
  subst own
  have itsDefinition := (built.definition?_node accepted.frozen).trans known
  exact ⟨ancestors, encloses,
    Validation.run_of_validate accepted.valid encloses itsDefinition (rule definition holds)⟩

theorem Stands.reference {part : String} (link : Link.reference owner part ∈ Vocabulary.links) :
    ∃ header text, node = .leaf header (.string text) ∧
      ∃ found, root.child? part = some found ∧ text ∈ found.entryNames := by
  obtain ⟨ancestors, encloses, passed⟩ :=
    stands.run accepted link rfl (.namesEntryOf part) fun _ holds => holds.2
  obtain ⟨definition, known, kind, _⟩ := accepted.linked.holds _ link
  rcases stands with ⟨_, name, path, raw, _, built⟩
  have shape := built.inversion known
  rw [kind] at shape
  rcases shape with ⟨isString, rfl⟩
  cases raw with
  | string text =>
      have names : text ∈ Validator.sectionNames ⟨registry, _, ancestors⟩ part :=
        mem_sectionNames_of_run passed
      rw [Validator.sectionNames, Context.root, encloses.getLast_eq] at names
      split at names
      · next found isFound => exact ⟨_, text, rfl, found, isFound, names⟩
      · contradiction
  | _ => contradiction

theorem Stands.filled (link : Link.filled owner ∈ Vocabulary.links) :
    Validator.isEmpty node = false := by
  obtain ⟨ancestors, _, passed⟩ := stands.run accepted link rfl .filled fun _ holds => holds
  unfold Validator.filled Validator.run at passed
  dsimp only at passed
  split at passed
  · contradiction
  · next notEmpty => simpa using notEmpty

/-! ### Values -/

/-- What the value of a composite has under a key is the value of a part. -/
theorem Stands.field_value {key target : String} {required : Bool} {value : Tree}
    (link : Link.field owner key target required ∈ Vocabulary.links)
    (given : node.value.get? key = some value) :
    ∃ child, value = child.value ∧ Stands registry root target child := by
  obtain ⟨header, children, rfl, _, each, _⟩ := stands.fields accepted link
  rw [Instance.get?_value, Option.map_eq_some_iff] at given
  rcases given with ⟨child, isChild, rfl⟩
  exact ⟨child, rfl, each child isChild⟩

theorem Stands.required_value {key target : String}
    (link : Link.field owner key target true ∈ Vocabulary.links) :
    ∃ child, node.value.get? key = some child.value ∧ Stands registry root target child := by
  obtain ⟨header, children, rfl, _, each, given⟩ := stands.fields accepted link
  obtain ⟨child, isChild⟩ := given rfl
  have value : (Instance.fields header children).value.get? key = some child.value := by
    rw [Instance.get?_value, isChild]
    rfl
  exact ⟨child, value, each child isChild⟩

/-- The value of a list has the values of parts of the document. -/
theorem Stands.items_value {item : String} (link : Link.list owner item ∈ Vocabulary.links) :
    ∃ children : List Instance, node.value = .sequence (children.map Instance.value) ∧
      ∀ child ∈ children, Stands registry root item child := by
  obtain ⟨header, children, rfl, each⟩ := stands.items accepted link
  refine ⟨children, ?_, each⟩
  rw [Instance.value, Instance.valueAll_eq_map]

end Links

/-! ## Sections -/

/-- A section of the base vocabulary and the definition of its entries. -/
structure IsSection (part item : String) : Prop where
  field : Link.field "blueprint" part part false ∈ Vocabulary.links
  map : Link.map part item ∈ Vocabulary.links
  other : part ≠ Placement.sectionName

theorem isSection_nodeTypes : IsSection "node_types" "node_type" :=
  ⟨by decide, by decide, by decide⟩

theorem isSection_relationships : IsSection "relationships" "relationship" :=
  ⟨by decide, by decide, by decide⟩

theorem isSection_nodeTemplates : IsSection "node_templates" "node_template" :=
  ⟨by decide, by decide, by decide⟩

theorem isSection_groups : IsSection "groups" "group" :=
  ⟨by decide, by decide, by decide⟩

section Sections

variable {checks : Checks} {registry : Registry} {header : Header} {children : Entries Instance}
  {plan : Plan} (accepted : Accepted checks registry (.fields header children))
  (stands : Stands registry (.fields header children) "blueprint" (.fields header children))
  (ascending : Entries.Ascending children)
  (emitted : registry.emit (.fields header children) = .ok plan)

include ascending emitted

/-- The names of a section of the root are those of the section of the plan. -/
theorem mem_keys_sectionEntries {part text : String} (other : part ≠ Placement.sectionName)
    {found : Instance} (isFound : (Instance.fields header children).child? part = some found)
    (named : text ∈ found.entryNames) :
    text ∈ Entries.keys (Placement.sectionEntries plan part) := by
  have value := Registry.emit_get? emitted ascending other
  rw [show Entries.get? children part = some found from isFound, Option.map_some, Option.some_or]
    at value
  cases found with
  | entries itsHeader parts =>
      rw [Placement.sectionEntries, value, Instance.value, Instance.valueEntries_eq_mapValues]
      change text ∈ Entries.keys (Entries.mapValues (fun _ => Instance.value) parts)
      rw [Entries.keys_mapValues]
      exact named
  | _ => contradiction

include accepted

/-- A reference in the document is one in the plan. -/
theorem Stands.names {owner part : String} {node : Instance}
    (position : Stands registry (.fields header children) owner node)
    (link : Link.reference owner part ∈ Vocabulary.links)
    (other : part ≠ Placement.sectionName) : plan.Names part (some node.value) := by
  obtain ⟨itsHeader, text, rfl, found, isFound, named⟩ := position.reference accepted link
  exact ⟨text, rfl, mem_keys_sectionEntries ascending emitted other isFound named⟩

section

variable {owner key leaf part : String} {node : Instance}
  (position : Stands registry (.fields header children) owner node)
  (reference : Link.reference leaf part ∈ Vocabulary.links) (other : part ≠ Placement.sectionName)

include position reference other

/-- A field that is a reference names an entry, if it is given. -/
theorem Stands.field_names (field : Link.field owner key leaf false ∈ Vocabulary.links)
    {value : Tree} (given : node.value.get? key = some value) : plan.Names part (some value) := by
  obtain ⟨child, rfl, itsPosition⟩ := position.field_value accepted field given
  exact itsPosition.names accepted ascending emitted reference other

/-- A field that is a reference and must be given names an entry. -/
theorem Stands.required_names (field : Link.field owner key leaf true ∈ Vocabulary.links) :
    plan.Names part (node.value.get? key) := by
  obtain ⟨child, given, itsPosition⟩ := position.required_value accepted field
  rw [given]
  exact itsPosition.names accepted ascending emitted reference other

end

/-- The relationships of a node template have a type and lead to a node template. -/
theorem Stands.relationships_hold {node : Instance} {value : Tree}
    (position : Stands registry (.fields header children) "node_template" node)
    (given : node.value.get? "relationships" = some value) :
    ∃ items, value = .sequence items ∧ ∀ item ∈ items,
      plan.Names "relationships" (item.get? "type") ∧
        plan.Names "node_templates" (item.get? "target") := by
  have field : Link.field "node_template" "relationships" "node_template_relationships" false ∈
      Vocabulary.links := by decide
  have list : Link.list "node_template_relationships" "node_template_relationship" ∈
      Vocabulary.links := by decide
  have typed : Link.field "node_template_relationship" "type" "relationship_type" true ∈
      Vocabulary.links := by decide
  have targeted : Link.field "node_template_relationship" "target" "relationship_target" true ∈
      Vocabulary.links := by decide
  obtain ⟨child, rfl, itsPosition⟩ := position.field_value accepted field given
  obtain ⟨relationships, isSequence, each⟩ := itsPosition.items_value accepted list
  refine ⟨_, isSequence, ?_⟩
  intro item isItem
  obtain ⟨relationship, member, rfl⟩ := List.mem_map.mp isItem
  have stands := each relationship member
  constructor
  · exact stands.required_names accepted ascending emitted (by decide) (by decide) typed
  · exact stands.required_names accepted ascending emitted (by decide) (by decide) targeted

/-- A group has members, which are node templates. -/
theorem Stands.members_hold {node : Instance}
    (position : Stands registry (.fields header children) "group" node) :
    ∃ members, node.value.get? "members" = some (.sequence members) ∧ members ≠ [] ∧
      ∀ member ∈ members, plan.Names "node_templates" (some member) := by
  have field : Link.field "group" "members" "group_members" true ∈ Vocabulary.links := by decide
  have list : Link.list "group_members" "group_member" ∈ Vocabulary.links := by decide
  obtain ⟨child, given, itsPosition⟩ := position.required_value accepted field
  have nonempty := itsPosition.filled accepted (by decide)
  obtain ⟨itsHeader, leaves, rfl, each⟩ := itsPosition.items accepted list
  rw [Instance.value, Instance.valueAll_eq_map] at given
  refine ⟨_, given, ?_, ?_⟩
  · intro empty
    rw [List.map_eq_nil_iff.mp empty] at nonempty
    contradiction
  · intro member isMember
    obtain ⟨leaf, isLeaf, rfl⟩ := List.mem_map.mp isMember
    exact (each leaf isLeaf).names accepted ascending emitted (by decide) (by decide)

section

variable {part item : String} (isSection : IsSection part item)

include stands isSection

/-- A section is absent or null, or has the values of parts of the document. -/
theorem section_cases :
    plan.get? part = none ∨ plan.get? part = some .null ∨
      ∃ parts, plan.get? part = some (.mapping (Entries.mapValues (fun _ => Instance.value) parts)) ∧
        ∀ entry ∈ parts, Stands registry (.fields header children) item entry.2 := by
  have value := Registry.emit_get? emitted ascending isSection.other
  obtain ⟨_, _, same, _, each, _⟩ := stands.fields accepted isSection.field
  cases same
  cases isChild : Entries.get? children part with
  | none =>
      rw [isChild] at value
      split at value
      · exact Or.inr (Or.inl value)
      · exact Or.inl value
  | some child =>
      obtain ⟨itsHeader, parts, rfl, itsEach⟩ :=
        (each child isChild).entries accepted isSection.map
      rw [isChild, Option.map_some, Option.some_or, Instance.value,
        Instance.valueEntries_eq_mapValues] at value
      exact Or.inr (Or.inr ⟨parts, value, itsEach⟩)

/-- An entry of a section is the value of a part of the document. -/
theorem exists_of_mem_sectionEntries {entry : String × Tree}
    (member : entry ∈ Placement.sectionEntries plan part) :
    ∃ node, entry.2 = node.value ∧ Stands registry (.fields header children) item node := by
  unfold Placement.sectionEntries at member
  rcases section_cases accepted stands ascending emitted isSection with
    absent | null | ⟨parts, given, positions⟩
  · rw [absent] at member
    contradiction
  · rw [null] at member
    contradiction
  · rw [given] at member
    obtain ⟨inner, isPart, rfl⟩ := List.mem_map.mp member
    exact ⟨inner.2, rfl, positions inner isPart⟩

/-- The types of a section derive from types of the same section. -/
theorem forall_derived {leaf : String}
    (field : Link.field item "derived_from" leaf false ∈ Vocabulary.links)
    (reference : Link.reference leaf part ∈ Vocabulary.links) :
    ∀ entry ∈ Placement.sectionEntries plan part, ∀ parent,
      entry.2.get? "derived_from" = some parent → plan.Names part (some parent) := by
  intro entry member parent given
  obtain ⟨node, same, position⟩ :=
    exists_of_mem_sectionEntries accepted stands ascending emitted isSection member
  rw [same] at given
  exact position.field_names accepted ascending emitted reference isSection.other field given

theorem section_shape {value : Tree} (given : plan.get? part = some value) :
    value = .null ∨ ∃ entries, value = .mapping entries := by
  rcases section_cases accepted stands ascending emitted isSection with
    absent | null | ⟨parts, whole, _⟩
  · rw [absent] at given
    contradiction
  · rw [null] at given
    cases given
    exact Or.inl rfl
  · rw [whole] at given
    cases given
    exact Or.inr ⟨_, rfl⟩

end

include stands

/-- The plan of an accepted document has no dangling reference. -/
theorem referencesHold_of_accepted : plan.ReferencesHold := by
  have shape {part item : String} (isSection : IsSection part item) (value : Tree) :=
    @section_shape _ _ _ _ _ accepted stands ascending emitted part item isSection value
  constructor
  case sections =>
    simp only [List.forall_mem_cons, List.not_mem_nil, false_imp_iff, implies_true, and_true]
    exact ⟨shape isSection_nodeTypes, shape isSection_relationships,
      shape isSection_nodeTemplates, shape isSection_groups⟩
  case nodeTypes =>
    exact forall_derived accepted stands ascending emitted isSection_nodeTypes
      (show Link.field _ _ "node_type_parent" _ ∈ _ by decide) (by decide)
  case relationships =>
    exact forall_derived accepted stands ascending emitted isSection_relationships
      (show Link.field _ _ "relationship_parent" _ ∈ _ by decide) (by decide)
  case templates =>
    intro entry member
    obtain ⟨node, same, position⟩ :=
      exists_of_mem_sectionEntries accepted stands ascending emitted isSection_nodeTemplates member
    have field : Link.field "node_template" "type" "node_template_type" true ∈
        Vocabulary.links := by decide
    rw [same]
    exact position.required_names accepted ascending emitted (by decide) (by decide) field
  case templateRelationships =>
    intro entry member value given
    obtain ⟨node, same, position⟩ :=
      exists_of_mem_sectionEntries accepted stands ascending emitted isSection_nodeTemplates member
    rw [same] at given
    exact position.relationships_hold accepted ascending emitted given
  case groups =>
    intro entry member
    obtain ⟨node, same, position⟩ :=
      exists_of_mem_sectionEntries accepted stands ascending emitted isSection_groups member
    rw [same]
    exact position.members_hold accepted ascending emitted

end Sections

/-! ## Parsing -/

/-- In the plan of an accepted document no reference dangles, whatever profiles add
to the base vocabulary, as long as they replace no definition on the way to a
reference. -/
theorem parse_referencesHold (profiles : List Profile)
    (spares : ∀ profile ∈ profiles, ∀ directive ∈ profile.directives,
      ∀ name ∈ Vocabulary.referencing, directive.replaced? ≠ some name)
    (activation : Activation) (activated : Profile.activate profiles = .ok activation)
    (checks : Checks) (sources : List Source) (policies : PolicyTable) (plan : Plan)
    (parsed : parse checks activation.registry sources policies = .ok plan) :
    plan.ReferencesHold := by
  obtain ⟨_, merged, root, _, structural, valid, emitted⟩ := parse_ok_iff.mp parsed
  have linked := Profile.activate_linked activated spares
  have accepted : Accepted checks activation.registry root :=
    ⟨Profile.activate_frozen activated, linked, valid⟩
  rw [Registry.structural, linked.root] at structural
  have stands : Stands activation.registry root "blueprint" root :=
    ⟨[], "", Path.root, merged, .root, built_of_build structural⟩
  have link : Link.field "blueprint" "node_types" "node_types" false ∈ Vocabulary.links := by
    decide
  obtain ⟨header, children, rfl, ascending, _⟩ := stands.fields accepted link
  exact referencesHold_of_accepted accepted stands ascending emitted

/-- A document with a server that runs on a host. -/
def hostedServer : Source :=
  ⟨"server.yaml", .mapping
    [("node_templates", .mapping
      [("host", .mapping [("type", .string "machine")]),
       ("server", .mapping
         [("relationships", .sequence
           [.mapping [("target", .string "host"), ("type", .string "runs_on")]]),
          ("type", .string "program")])]),
     ("node_types", .mapping
       [("machine", .null), ("program", .mapping [("derived_from", .string "machine")])]),
     ("relationships", .mapping [("runs_on", .null)]),
     ("tosca_definitions_version", .string "v1")]⟩

/-- The server and its host are accepted with a profile that replaces an unrelated
definition, and refer to each other as they should. -/
theorem parse_hostedServer :
    ∃ activation plan, Profile.activate [Profile.cloudify] = .ok activation ∧
      parse Checks.none activation.registry [hostedServer] activation.policies = .ok plan ∧
      (Placement.sectionEntries plan "node_templates").length = 2 ∧ plan.ReferencesHold := by
  have evaluated : (Profile.activate [Profile.cloudify]).toOption.any (fun activation =>
      (parse Checks.none activation.registry [hostedServer] activation.policies).toOption.any
        fun plan => (Placement.sectionEntries plan "node_templates").length == 2) = true := by
    decide +kernel
  have spares : ∀ profile ∈ [Profile.cloudify], ∀ directive ∈ profile.directives,
      ∀ name ∈ Vocabulary.referencing, directive.replaced? ≠ some name := by
    decide
  obtain ⟨activation, activated, parses⟩ := exists_of_any_toOption evaluated
  obtain ⟨plan, parsed, two⟩ := exists_of_any_toOption parses
  exact ⟨activation, plan, activated, parsed, by simpa using two,
    parse_referencesHold [Profile.cloudify] spares activation activated Checks.none
      [hostedServer] activation.policies plan parsed⟩

end Blueprint
