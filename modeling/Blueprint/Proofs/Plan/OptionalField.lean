import Blueprint.Proofs.Document.MergeValues
import Blueprint.Proofs.Instance.Faults
import Blueprint.Proofs.Plan.Emission
import Blueprint.Proofs.Schema.OptionalField

/-!
# An optional field is conservative

A document that is accepted by a registry is accepted by one that gains a field which may
be left out, and the plan is the same, except that a field of the root has the section null
(`parse_withOptional`).

The document does not give the field, for it was not declared.  So the same node is built
(`Gains.built`), the same rules are checked on it (`Gains.validate`), and the sections differ
by the contributed key alone.  A null section tells host placement as little as none.
-/

namespace Blueprint

namespace Registry

variable {registry wider : Registry} {target key : String}

/-! ## Building -/

/-- With a field that is not given and has no default nothing more is read. -/
theorem reads_insert_iff {fields : Dict Field} {field : Field} {entries : Entries Tree}
    (noDefault : field.default = none) (new : fields.get? key = none)
    (absent : Entries.get? entries key = none) {other : String} {itsField : Field} {value : Tree} :
    ((fields.insert key field).get? other = some itsField ∧
      itsField.chosen? (Entries.get? entries other) = some value) ↔
    (fields.get? other = some itsField ∧
      itsField.chosen? (Entries.get? entries other) = some value) := by
  rw [Dict.get?_insert]
  by_cases same : key = other
  · subst same
    simp only [if_true, Option.some.injEq, new, absent]
    constructor
    · rintro ⟨rfl, isChosen⟩
      rw [Field.chosen?, noDefault] at isChosen
      contradiction
    · rintro ⟨isField, _⟩
      contradiction
  · rw [if_neg same]

/-- A composite is built with another field if that is not read. -/
theorem built_withField {owner name : String} {path : Path} {raw : Tree} {definition : Definition}
    {fields : Dict Field} {field : Field} {entries : Entries Tree} {children : Entries Instance}
    (found : wider.definition? owner = some (definition.withField key field))
    (kind : definition.kind = .composite fields) (new : fields.get? key = none)
    (optional : field.required = false) (noDefault : field.default = none)
    (readable : raw.asEntries? = some entries)
    (declared : ∀ key ∈ Entries.keys entries, ∃ field, fields.get? key = some field)
    (ascending : Entries.Ascending children)
    (present : ∀ key, (∃ child, Entries.get? children key = some child) ↔
      ∃ field value, fields.get? key = some field ∧
        field.chosen? (Entries.get? entries key) = some value)
    (dispensable : ∀ key field, fields.get? key = some field →
      field.chosen? (Entries.get? entries key) = none → field.required = false)
    (each : ∀ key field value child, fields.get? key = some field →
      field.chosen? (Entries.get? entries key) = some value →
      Entries.get? children key = some child →
      Built wider field.definition key (path.child key) value child) :
    Built wider owner name path raw (.fields ⟨definition.name, name, path⟩ children) := by
  have absent : Entries.get? entries key = none := by
    rw [Entries.get?_eq_none_iff]
    intro member
    obtain ⟨_, isField⟩ := declared key member
    rw [new] at isField
    contradiction
  rw [← Definition.withField_name definition key field]
  apply Built.fields found (Definition.withField_kind kind) readable _ ascending
  case present =>
    intro other
    simp only [reads_insert_iff noDefault new absent]
    exact present other
  case dispensable =>
    intro other itsField isField unread
    rw [Dict.get?_insert] at isField
    split at isField
    · cases isField
      exact optional
    · exact dispensable other itsField isField unread
  case each =>
    intro other itsField value child isField isChosen isChild
    obtain ⟨isOld, _⟩ := (reads_insert_iff noDefault new absent).mp ⟨isField, isChosen⟩
    exact each other itsField value child isOld isChosen isChild
  · intro other member
    obtain ⟨itsField, isField⟩ := declared other member
    rw [Dict.get?_insert]
    split
    · exact ⟨field, rfl⟩
    · exact ⟨itsField, isField⟩

/-- What was built is built with the field. -/
theorem Gains.built (gains : Gains registry wider target key) {owner name : String} {path : Path}
    {raw : Tree} {node : Instance} (built : Built registry owner name path raw node) :
    Built wider owner name path raw node := by
  induction built with
  | leaf known kind accepted =>
      exact .leaf (gains.keeps_plain known (by simp [kind])) kind accepted
  | @fields owner name path raw definition fields entries children known kind readable declared
      ascending present dispensable each ih =>
      by_cases here : owner = target
      · subst here
        obtain ⟨_, _, field, itsKnown, itsKind, new, optional, noDefault, found⟩ := gains.field
        cases known.symm.trans itsKnown
        cases kind.symm.trans itsKind
        exact built_withField found kind new optional noDefault readable declared ascending present
          dispensable ih
      · exact .fields (gains.keeps here known) kind readable declared ascending present dispensable
          ih
  | items known kind itemKnown readable length each ih =>
      obtain ⟨item, isItem⟩ := itemKnown
      obtain ⟨other, found, _⟩ := gains.exists_definition isItem
      exact .items (gains.keeps_plain known (by simp [kind])) kind ⟨other, found⟩ readable length ih
  | entries known kind itemKnown readable keys each ih =>
      obtain ⟨item, isItem⟩ := itemKnown
      obtain ⟨other, found, _⟩ := gains.exists_definition isItem
      exact .entries (gains.keeps_plain known (by simp [kind])) kind ⟨other, found⟩ readable keys ih

end Registry

/-! ## Validating -/

namespace Registry

section

variable {registry wider : Registry} {target key : String} (gains : Gains registry wider target key)
  (frozen : registry.Frozen) (itsFrozen : wider.Frozen) {checks : Checks}
  (blind : checks.IgnoreRegistry)

include gains frozen itsFrozen blind

/-- A rule that is registered says the same on both sides. -/
theorem Gains.run_eq {name : String} {definition : Definition}
    (known : registry.definition? name = some definition) {validator : Validator}
    (member : validator ∈ definition.validators) (node : Instance) (ancestors : List Instance) :
    validator.run checks ⟨wider, node, ancestors⟩ =
      validator.run checks ⟨registry, node, ancestors⟩ := by
  obtain ⟨other, found, sameRules⟩ := gains.exists_definition known
  exact itsFrozen.run_eq frozen blind found (sameRules ▸ member) known member node ancestors

theorem Gains.validate {owner name : String} {path : Path} {raw : Tree} {root : Instance}
    (built : Built registry owner name path raw root)
    (valid : Validation.validate checks registry root = .ok ()) :
    Validation.validate checks wider root = .ok () := by
  rw [Validation.validate_ok_iff] at valid ⊢
  intro ancestors node encloses validator member
  obtain ⟨_, _, _, _, itsBuilt⟩ := built.of_encloses encloses
  obtain ⟨definition, itsKnown⟩ := itsBuilt.conforms.definition_known
  have known := (itsBuilt.definition?_node frozen).trans itsKnown
  obtain ⟨other, found, sameRules⟩ := gains.exists_definition known
  rw [Validation.validatorsOf, found] at member
  have isRule : validator ∈ definition.validators := sameRules ▸ member
  rw [gains.run_eq frozen itsFrozen blind known isRule]
  apply valid ancestors node encloses
  rwa [Validation.validatorsOf, known]

end

/-! ## Emitting -/

section

variable {registry wider : Registry} {target key : String} (gains : Gains registry wider target key)
  {values : Dict Tree} {root : Instance}
  (built : Built registry registry.root "" Path.root (.mapping values.entries) root)

include gains

theorem Gains.mem_contributedFields (other : String) :
    other ∈ wider.contributedFields wider.root ↔
      (registry.root = target ∧ other = key) ∨
        other ∈ registry.contributedFields registry.root := by
  rw [gains.root]
  exact gains.contributes registry.root other

theorem Gains.place_eq : wider.place = registry.place := by
  funext plan
  rw [place, place, gains.placement]

include built

/-- A field of another composite is no section. -/
theorem Gains.sections_eq (other : target ≠ registry.root) :
    wider.sections root = registry.sections root := by
  apply Dict.ext_get?
  intro name
  rw [get?_sections wider built.valuesByKey_ascending,
    get?_sections registry built.valuesByKey_ascending]
  simp only [gains.mem_contributedFields, Ne.symm other, false_and, false_or]

/-- A field that the root gains was not among its sections. -/
theorem Gains.section_eq_none (frozen : registry.Frozen) (isRoot : target = registry.root) :
    (registry.sections root).get? key = none := by
  obtain ⟨definition, fields, _, known, kind, new, _⟩ := gains.field
  subst isRoot
  have unread : root.valuesByKey.get? key = none := by
    have shape := built.inversion known
    rw [kind] at shape
    obtain ⟨_, children, _, rfl, _, present, _⟩ := shape
    rw [Instance.valuesByKey_fields, Entries.get?_mapValues, Option.map_eq_none_iff]
    cases isChild : Entries.get? children key with
    | none => rfl
    | some child =>
        obtain ⟨_, _, isField, _⟩ := (present key).mp ⟨child, isChild⟩
        rw [new] at isField
        contradiction
  have notContributed : key ∉ registry.contributedFields registry.root := by
    intro contributed
    obtain ⟨_, itsKnown, _, isComposite, contained⟩ :=
      frozen.contributionsDeclared registry.root key contributed
    cases known.symm.trans itsKnown
    cases (Definition.fields?_of_kind kind).symm.trans isComposite
    obtain ⟨_, isField⟩ := Dict.contains_iff.mp contained
    rw [new] at isField
    contradiction
  rw [get?_sections registry built.valuesByKey_ascending, unread, if_neg notContributed]
  rfl

/-- A field that the root gains is a null section. -/
theorem Gains.sections_eq_insert (frozen : registry.Frozen) (isRoot : target = registry.root) :
    wider.sections root = (registry.sections root).insert key .null := by
  have absent := gains.section_eq_none built frozen isRoot
  rw [get?_sections registry built.valuesByKey_ascending, Option.or_eq_none_iff] at absent
  apply Dict.ext_get?
  intro name
  rw [Dict.get?_insert, get?_sections wider built.valuesByKey_ascending,
    get?_sections registry built.valuesByKey_ascending]
  simp only [gains.mem_contributedFields, isRoot.symm, true_and]
  by_cases same : key = name
  · subst same
    simp [absent.1]
  · simp [same, Ne.symm same]

end

end Registry

/-! ## Placing -/

/-- A null section has no entries. -/
theorem Placement.sectionEntries_insert {sections : Dict Tree} {key : String}
    (absent : sections.get? key = none) (name : String) :
    sectionEntries ⟨sections.insert key .null⟩ name = sectionEntries ⟨sections⟩ name := by
  unfold sectionEntries Plan.get?
  rw [Dict.get?_insert]
  split
  · next same =>
      subst same
      rw [absent]
      rfl
  · rfl

/-- A null section is placed beside the others. -/
theorem Registry.place_insert {registry : Registry} {sections : Dict Tree} {key : String}
    {plan : Plan} (placed : registry.place ⟨sections⟩ = .ok plan)
    (absent : sections.get? key = none)
    (free : ¬ (key = Placement.sectionName ∧ registry.placement.isSome = true)) :
    ∃ wider, plan.insertSection key .null = .ok wider ∧
      registry.place ⟨sections.insert key .null⟩ = .ok wider := by
  unfold place at placed ⊢
  cases installed : registry.placement with
  | none =>
      rw [installed] at placed
      cases placed
      exact ⟨_, Plan.insertSection_ok_iff.mpr ⟨absent, rfl⟩, rfl⟩
  | some placement =>
      have other : key ≠ Placement.sectionName := fun same => free ⟨same, by rw [installed]; rfl⟩
      rw [installed] at placed
      obtain ⟨new, rfl⟩ := Plan.insertSection_ok_iff.mp placed
      have samePlacements : placement.placements ⟨sections.insert key .null⟩ =
          placement.placements ⟨sections⟩ := by
        unfold HostPlacement.placements Placement.Inventory.ofPlan
        simp only [Placement.sectionEntries_insert absent]
      have still : Plan.get? ⟨sections.insert Placement.sectionName
          (placement.placements ⟨sections⟩)⟩ key = none := by
        rw [Plan.get?, Dict.get?_insert, if_neg (Ne.symm other)]
        exact absent
      refine ⟨_, Plan.insertSection_ok_iff.mpr ⟨still, rfl⟩, ?_⟩
      dsimp only
      rw [HostPlacement.assemble, Plan.insertSection_ok_iff, samePlacements]
      constructor
      · rw [Plan.get?, Dict.get?_insert, if_neg other]
        exact new
      · rw [Dict.insert_comm _ other]

/-- The plan of a root gets a null section if the field is one of the root, and is the same
otherwise. -/
theorem Registry.Gains.emit {registry wider : Registry} {target key : String}
    (gains : Gains registry wider target key) (frozen : registry.Frozen) (itsFrozen : wider.Frozen)
    {values : Dict Tree} {root : Instance} {plan : Plan}
    (built : Built registry registry.root "" Path.root (.mapping values.entries) root)
    (free : ¬ (target = registry.root ∧ key = Placement.sectionName ∧
      registry.placement.isSome = true))
    (emitted : registry.emit root = .ok plan) :
    ∃ result, wider.emit root = .ok result ∧ (target ≠ registry.root → result = plan) ∧
      (target = registry.root → plan.insertSection key .null = .ok result) := by
  have itsBuilt := gains.built built
  rw [← gains.root] at itsBuilt
  rw [frozen.emit_eq built] at emitted
  rw [itsFrozen.emit_eq itsBuilt, gains.place_eq]
  by_cases isRoot : target = registry.root
  · obtain ⟨result, inserted, placed⟩ := place_insert emitted
      (gains.section_eq_none built frozen isRoot) fun taken => free ⟨isRoot, taken⟩
    rw [gains.sections_eq_insert built frozen isRoot]
    exact ⟨result, placed, fun other => absurd isRoot other, fun _ => inserted⟩
  · rw [gains.sections_eq built isRoot]
    exact ⟨plan, emitted, fun _ => rfl, fun same => absurd same isRoot⟩

/-! ## Parsing -/

/-- An optional field is conservative: what was accepted is accepted, and at most a null section
is new.  Host placement must be able to add its section, though. -/
theorem parse_withOptional {checks : Checks} (blind : checks.IgnoreRegistry)
    {registry extended before after : Registry} (grown : Registry.Grown registry)
    {target key : String} {definition : Definition} {supporting : List Definition}
    (applied : registry.apply [.addToSchema target key definition false supporting] =
      .ok extended)
    (frozenBefore : registry.freeze = .ok before) (frozenAfter : extended.freeze = .ok after)
    (free : ¬ (target = registry.root ∧ key = Placement.sectionName ∧
      registry.placement.isSome = true))
    {sources : List Source} {policies : PolicyTable} {plan : Plan}
    (parsed : parse checks before sources policies = .ok plan) :
    ∃ wider, parse checks after sources policies = .ok wider ∧
      (target ≠ registry.root → wider = plan) ∧
      (target = registry.root → plan.insertSection key .null = .ok wider) := by
  have frozen : before.Frozen := ⟨registry, grown, frozenBefore⟩
  have itsFrozen : after.Frozen := ⟨extended, .apply grown applied, frozenAfter⟩
  have gains := (Registry.Gains.of_apply grown.regular.unfrozen applied).of_freeze frozenBefore
    frozenAfter
  obtain ⟨_, merged, root, isMerged, structural, valid, emitted⟩ := parse_ok_iff.mp parsed
  obtain ⟨values, rfl, _⟩ := merge_filled isMerged
  have built := frozen.build_iff_built.mp structural
  have itsStructural : after.structural (.mapping values.entries) = .ok root := by
    rw [Registry.structural, gains.root]
    exact itsFrozen.build_iff_built.mpr (gains.built built)
  have itsValid := gains.validate frozen itsFrozen blind built valid
  have sameRoot := Registry.freeze_root frozenBefore
  have samePlacement : before.placement = registry.placement := by
    rw [Registry.freeze_rest frozenBefore]
  rw [← sameRoot, ← samePlacement] at free
  obtain ⟨result, itsEmitted, same, inserted⟩ :=
    gains.emit frozen itsFrozen built free emitted
  rw [sameRoot] at same inserted
  exact ⟨result, parse_ok_iff.mpr ⟨Registry.freeze_frozen frozenAfter, _, root, isMerged,
    itsStructural, itsValid, itsEmitted⟩, same, inserted⟩

/-- A schema with a rule. -/
def tagSchema : List Definition :=
  [(Definition.leaf "tag" .string).withValidator (.oneOf ["blue", "red"]),
    (Definition.composite "site").withOptional "tag" "tag"]

/-- The plan of a site gets a null section for node types, which host placement reads. -/
theorem parse_taggedSite :
    ∃ base placed extended before after plan wider,
      Registry.register "site" tagSchema = .ok base ∧
      base.setPlacement ⟨"host", "contained_in", "central"⟩ = .ok placed ∧
      placed.apply [.addToSchema "site" "node_types" (.leaf "types" .any) false []] =
        .ok extended ∧
      placed.freeze = .ok before ∧ extended.freeze = .ok after ∧
      parse Checks.none before [⟨"site.yaml", .mapping [("tag", .string "red")]⟩] ⟨.override, ∅⟩ =
        .ok plan ∧
      parse Checks.none after [⟨"site.yaml", .mapping [("tag", .string "red")]⟩] ⟨.override, ∅⟩ =
        .ok wider ∧
      plan.insertSection "node_types" .null = .ok wider := by
  obtain ⟨base, placed, extended, before, after, plan, registered, installed, applied, root,
      frozenBefore, frozenAfter, parsed⟩ :
      ∃ base placed extended before after plan,
        Registry.register "site" tagSchema = .ok base ∧
        base.setPlacement ⟨"host", "contained_in", "central"⟩ = .ok placed ∧
        placed.apply [.addToSchema "site" "node_types" (.leaf "types" .any) false []] =
          .ok extended ∧
        "site" = placed.root ∧ placed.freeze = .ok before ∧ extended.freeze = .ok after ∧
        parse Checks.none before [⟨"site.yaml", .mapping [("tag", .string "red")]⟩]
          ⟨.override, ∅⟩ = .ok plan :=
    ⟨_, _, _, _, _, _, rfl, rfl, rfl, rfl, rfl, rfl, rfl⟩
  have blind : Checks.none.IgnoreRegistry := fun _ _ _ _ _ => rfl
  have grown : Registry.Grown placed := .place (.register registered) installed
  have other : "node_types" ≠ Placement.sectionName := by decide
  obtain ⟨wider, accepted, _, inserted⟩ := parse_withOptional blind grown applied frozenBefore
    frozenAfter (fun taken => other taken.2.1) parsed
  exact ⟨base, placed, extended, before, after, plan, wider, registered, installed, applied,
    frozenBefore, frozenAfter, parsed, accepted, inserted root⟩

end Blueprint
