import Blueprint.Proofs.Plan.Emission
import Blueprint.Proofs.Schema.History

/-!
# The sections of a plan, exactly

The emission cuts a root into two parts, puts them together again, adds null sections and at last
the placements, and each of these steps refuses a section that is there already.  On a frozen
registry only the last one can: what was cut apart goes together again (`Frozen.emit_split`), and
nulls are added only where nothing stands.  So a plan has every section of the root with its value,
null for each contributed field that the root lacks, and the placements (`Frozen.emit_exact`).
-/

namespace Blueprint

/-- The sections that the value of a root gives: its entries, none if it is no mapping. -/
def Instance.given (root : Instance) : Dict Tree :=
  Dict.ofList root.valuesByKey

namespace Registry

/-- The contributed parts of a root, which are emitted apart from the others. -/
def extras (registry : Registry) (root : Instance) : List (String × Instance) :=
  (registry.contributedFields registry.root).filterMap fun key =>
    (root.child? key).map fun child => (key, child)

variable {registry : Registry} {raw : Tree} {root : Instance}

/-- The parts into which the emission cuts a root have no section in common and are the whole
root. -/
theorem Frozen.emit_split (frozen : registry.Frozen)
    (built : Built registry registry.root "" Path.root raw root) :
    Plan.emit (root.withoutFields (registry.contributedFields registry.root))
      (registry.extras root) = .ok ⟨root.given⟩ := by
  rcases frozen.composite_or_plain built with ⟨header, _, rfl, ascending⟩ | plain
  · have keysAscending := registry.contributedFields_ascending registry.root
    exact Plan.emit_withoutFields header ascending keysAscending
  · rw [extras, plain, root.withoutFields_nil, Plan.emit_eq]
    rfl

/-- Before hosts are placed a plan has the sections of the root, and null for each contributed
field that the root lacks. -/
theorem Frozen.get?_sections (frozen : registry.Frozen)
    (built : Built registry registry.root "" Path.root raw root) (key : String) :
    (registry.sections root).get? key = (root.given.get? key).or
      (if key ∈ registry.contributedFields registry.root then some .null else none) := by
  rcases frozen.composite_or_plain built with ⟨_, _, rfl, ascending⟩ | plain
  · have valuesAscending := ascending.mapValues fun _ => Instance.value
    rw [← Instance.valuesByKey_fields] at valuesAscending
    rw [registry.get?_sections valuesAscending, Instance.given,
      Dict.get?_ofList valuesAscending]
  · rw [sections, plain, if_neg List.not_mem_nil, Option.or_none]
    rfl

/-- A section that is there already keeps a plan from being emitted. -/
theorem place_error_iff {plan : Plan} {cause : EmitError} :
    registry.place plan = .error cause ↔
      cause = .duplicateSection Placement.sectionName ∧
        (∃ placement, registry.placement = some placement) ∧
          plan.contains Placement.sectionName = true := by
  unfold place
  cases registry.placement with
  | none => simp
  | some placement =>
      dsimp only
      rw [HostPlacement.assemble, Plan.insertSection]
      cases plan.contains Placement.sectionName <;> simp [eq_comm]

/-- The placements are added to the sections of a plan. -/
theorem place_get? {plan placed : Plan} (assembled : registry.place plan = .ok placed)
    (key : String) :
    placed.get? key =
      match registry.placement with
      | none => plan.get? key
      | some placement =>
          if Placement.sectionName = key then some (placement.placements plan)
          else plan.get? key := by
  unfold place at assembled
  cases installed : registry.placement with
  | none =>
      rw [installed] at assembled
      cases assembled
      rfl
  | some placement =>
      rw [installed] at assembled
      obtain ⟨_, rfl⟩ := Plan.insertSection_ok_iff.mp assembled
      exact Dict.get?_insert plan.sections Placement.sectionName key _

/-- Emission neither loses nor doubles a section.  Cutting the root apart is never what makes it
fail: it fails exactly if hosts are placed and the root gives their section or has it for a
contributed field.  Otherwise the plan has the sections that the root gives, null for each
contributed field without one, and the placements that follow from these. -/
theorem Frozen.emit_exact (frozen : registry.Frozen)
    (structural : registry.structural raw = .ok root) :
    Plan.emit (root.withoutFields (registry.contributedFields registry.root))
        (registry.extras root) = .ok ⟨root.given⟩ ∧
      (∀ cause, registry.emit root = .error cause ↔
        cause = .duplicateSection Placement.sectionName ∧
          (∃ placement, registry.placement = some placement) ∧
            (root.given.contains Placement.sectionName = true ∨
              Placement.sectionName ∈ registry.contributedFields registry.root)) ∧
      ∀ plan, registry.emit root = .ok plan →
        ∃ unplaced : Plan,
          (∀ key, unplaced.get? key = (root.given.get? key).or
            (if key ∈ registry.contributedFields registry.root then some .null else none)) ∧
          ∀ key, plan.get? key =
            match registry.placement with
            | none => unplaced.get? key
            | some placement =>
                if Placement.sectionName = key then some (placement.placements unplaced)
                else unplaced.get? key := by
  have built := built_of_build structural
  have found := frozen.get?_sections built
  constructor
  · exact frozen.emit_split built
  · rw [frozen.emit_eq built]
    constructor
    · intro cause
      have present : (Plan.mk (registry.sections root)).contains Placement.sectionName = true ↔
          root.given.contains Placement.sectionName = true ∨
            Placement.sectionName ∈ registry.contributedFields registry.root := by
        rw [Plan.contains, Dict.contains_iff, found, Dict.contains_iff]
        cases root.given.get? Placement.sectionName <;> simp
      rw [place_error_iff, present]
    · intro plan assembled
      exact ⟨⟨registry.sections root⟩, found, place_get? assembled⟩

/-- A site that may say itself where its templates are placed. -/
def placingSite : List Definition :=
  [Definition.leaf "any" .any, Definition.map "templates" "any",
    ((Definition.composite "site").withOptional "node_placement" "any").withOptional
      "node_templates" "templates"]

/-- Where hosts are placed, a site that says nothing of it is emitted with its templates, null for
the owner that a profile contributed, and the placements; a site that does is refused. -/
theorem emit_placingSite :
    ∃ base extended placed registry silent outspoken plan,
      Registry.register "site" placingSite = .ok base ∧
      base.apply [.addToSchema "site" "owner" (.leaf "owner" .string) false []] = .ok extended ∧
      extended.setPlacement ⟨"host", "contained_in", "central"⟩ = .ok placed ∧
      placed.freeze = .ok registry ∧ registry.Frozen ∧
      registry.structural (.mapping [("node_templates", .mapping [("app", .null)])]) =
        .ok silent ∧
      registry.structural (.mapping [("node_placement", .mapping [])]) = .ok outspoken ∧
      registry.emit silent = .ok plan ∧ plan.get? "owner" = some .null ∧
      plan.get? "node_templates" = some (.mapping [("app", .null)]) ∧
      (∃ placements, plan.get? "node_placement" = some placements) ∧
      registry.emit outspoken = .error (.duplicateSection "node_placement") := by
  obtain ⟨base, extended, placed, registry, silent, outspoken, plan, placement, registered, applied,
      installed, accepted, isSilent, isOutspoken, emitted, isPlacement, contributed, given,
      occupied⟩ :
      ∃ base extended placed registry silent outspoken plan placement,
        Registry.register "site" placingSite = .ok base ∧
        base.apply [.addToSchema "site" "owner" (.leaf "owner" .string) false []] = .ok extended ∧
        extended.setPlacement ⟨"host", "contained_in", "central"⟩ = .ok placed ∧
        placed.freeze = .ok registry ∧
        registry.structural (.mapping [("node_templates", .mapping [("app", .null)])]) =
          .ok silent ∧
        registry.structural (.mapping [("node_placement", .mapping [])]) = .ok outspoken ∧
        registry.emit silent = .ok plan ∧ registry.placement = some placement ∧
        registry.contributedFields registry.root = ["owner"] ∧
        silent.given.entries = [("node_templates", .mapping [("app", .null)])] ∧
        outspoken.given.contains "node_placement" = true :=
    ⟨_, _, _, _, _, _, _, _, rfl, rfl, rfl, rfl, rfl, rfl, rfl, rfl, rfl, rfl, rfl⟩
  have frozen : registry.Frozen :=
    ⟨placed, .place (.apply (.register registered) applied) installed, accepted⟩
  obtain ⟨_, _, sections⟩ := frozen.emit_exact isSilent
  obtain ⟨unplaced, found, isFound⟩ := sections plan emitted
  obtain ⟨_, refused, _⟩ := frozen.emit_exact isOutspoken
  refine ⟨base, extended, placed, registry, silent, outspoken, plan, registered, applied, installed,
    accepted, frozen, isSilent, isOutspoken, emitted, ?_, ?_, ?_, ?_⟩
  · rw [isFound, isPlacement, found, contributed, Dict.get?, given]
    rfl
  · rw [isFound, isPlacement, found, contributed, Dict.get?, given]
    rfl
  · rw [isFound, isPlacement]
    exact ⟨_, rfl⟩
  · exact (refused _).mpr ⟨rfl, ⟨placement, isPlacement⟩, .inl occupied⟩

/-! ## Contributed sections -/

/-- Placing hosts leaves the sections that are there as they are. -/
theorem get?_of_place {plan placed : Plan} (assembled : registry.place plan = .ok placed)
    {key : String} {value : Tree} (held : plan.get? key = some value) :
    placed.get? key = some value := by
  rw [place_get? assembled]
  cases installed : registry.placement with
  | none => exact held
  | some placement =>
      have other : Placement.sectionName ≠ key := by
        rintro rfl
        have present := Dict.contains_iff.mpr ⟨value, held⟩
        rw [place_error_iff.mpr ⟨rfl, ⟨placement, installed⟩, present⟩] at assembled
        contradiction
      exact (if_neg other).trans held

end Registry

theorem Tree.get?_of_asEntries? {tree : Tree} {entries : Entries Tree}
    (readable : tree.asEntries? = some entries) (key : String) :
    tree.get? key = Entries.get? entries key := by
  cases tree with
  | null | mapping =>
      cases readable
      rfl
  | _ => contradiction

/-- A field that is not given and has no default gives no section. -/
theorem Built.get?_given_eq_none {registry : Registry} {target name : String} {path : Path}
    {raw : Tree} {node : Instance} {definition : Definition} {fields : Dict Field} {key : String}
    {field : Field} (built : Built registry target name path raw node)
    (known : registry.definition? target = some definition)
    (kind : definition.kind = .composite fields) (isField : fields.get? key = some field)
    (noDefault : field.default = none)
    (ungiven : ∀ given, raw.get? key = some given → given = .null) :
    node.given.get? key = none := by
  have shape := built.inversion known
  rw [kind] at shape
  obtain ⟨entries, children, readable, rfl, ascending, present, _⟩ := shape
  have valuesAscending := ascending.mapValues fun _ => Instance.value
  rw [Instance.given, Instance.valuesByKey_fields, Dict.get?_ofList valuesAscending,
    Entries.get?_mapValues, Option.map_eq_none_iff, Option.eq_none_iff_forall_ne_some]
  intro child isChild
  obtain ⟨itsField, value, isItsField, isChosen⟩ := (present key).mp ⟨child, isChild⟩
  cases isField.symm.trans isItsField
  rw [Field.chosen?, noDefault, Option.or_none, Option.filter_eq_some_iff,
    ← Tree.get?_of_asEntries? readable] at isChosen
  obtain ⟨isGiven, notNull⟩ := isChosen
  rw [ungiven value isGiven] at notNull
  contradiction

namespace Registry

variable {registry frozen : Registry}

/-- A declared field of the root that is a section of every plan, null if the document gives no value
for it and it has no default. -/
def AlwaysEmits (registry : Registry) (key : String) : Prop :=
  ∃ definition fields field, registry.root? = some definition ∧
    definition.fields? = some fields ∧ fields.get? key = some field ∧
      ∀ checks sources policies merged plan, merge sources policies = .ok merged →
        parse checks registry sources policies = .ok plan →
          ∃ value, plan.get? key = some value ∧
            ((∀ given, merged.get? key = some given → given = .null) → field.default = none →
              value = .null)

theorem Frozen.alwaysEmits (isFrozen : frozen.Frozen) {key : String}
    (contributed : key ∈ frozen.contributedFields frozen.root) : frozen.AlwaysEmits key := by
  obtain ⟨definition, known, fields, isComposite, declares⟩ :=
    isFrozen.contributionsDeclared frozen.root key contributed
  obtain ⟨field, isField⟩ := Dict.contains_iff.mp declares
  refine ⟨definition, fields, field, known, isComposite, isField, ?_⟩
  intro checks sources policies merged plan isMerged parsed
  obtain ⟨_, _, root, itsMerged, structural, _, emitted⟩ := parse_ok_iff.mp parsed
  cases isMerged.symm.trans itsMerged
  have built := built_of_build structural
  rw [isFrozen.emit_eq built] at emitted
  have found := isFrozen.get?_sections built key
  rw [if_pos contributed] at found
  cases given : root.given.get? key with
  | some value =>
      rw [given] at found
      refine ⟨value, get?_of_place emitted found, ?_⟩
      intro ungiven noDefault
      rw [built.get?_given_eq_none known (Definition.kind_eq_of_fields? isComposite) isField
        noDefault ungiven] at given
      contradiction
  | none =>
      rw [given] at found
      exact ⟨.null, get?_of_place emitted found, fun _ _ => rfl⟩

/-- The contributed fields of a definition are those that last among the directives that were
applied.  Once the registry is frozen those of the root are sections of every plan. -/
theorem GrownBy.contributed_exact {root : String} {base : List Definition}
    {directives : List Directive} (grown : GrownBy root base directives registry) :
    (∀ target key, key ∈ registry.contributedFields target ↔
        Directive.Lasting target key directives) ∧
      ∀ frozen, registry.freeze = .ok frozen →
        ∀ key, Directive.Lasting frozen.root key directives → frozen.AlwaysEmits key := by
  have remembers := grown.remembers
  constructor
  · exact remembers
  · intro frozen accepted key lasting
    have isFrozen : frozen.Frozen := ⟨registry, grown.grown, accepted⟩
    apply isFrozen.alwaysEmits
    rw [freeze_root accepted] at lasting
    rw [freeze_rest accepted]
    exact (remembers registry.root key).mpr lasting

/-- A site is given a note and an owner, replaced by a place that has a note only, and given an
owner again. -/
def renovations : List (List Directive) :=
  [[.addToSchema "site" "note" (.leaf "note" .string) false [],
      .addToSchema "site" "owner" (.leaf "owner" .string) true []],
    [.replace "site" ((Definition.composite "place").withOptional "note" "note") []],
    [.addToSchema "site" "owner" (.leaf "owner" .string) false []]]

/-- The note lasts, for the replacement declares it; the owner is lost and lasts since it was added
again.  Both are sections of the plan of a site that gives neither. -/
theorem contributed_renovatedSite :
    ∃ base first second third frozen plan,
      Registry.register "site" [Definition.composite "site"] = .ok base ∧
      base.apply (renovations.getD 0 []) = .ok first ∧
      first.apply (renovations.getD 1 []) = .ok second ∧
      second.apply (renovations.getD 2 []) = .ok third ∧ third.freeze = .ok frozen ∧
      parse Checks.none frozen [] .empty = .ok plan ∧
      ¬ Directive.Lasting "site" "owner" (renovations.take 2).flatten ∧
      Directive.Lasting "site" "note" renovations.flatten ∧
      Directive.Lasting "site" "owner" renovations.flatten ∧
      plan.get? "note" = some .null ∧ plan.get? "owner" = some .null := by
  obtain ⟨base, first, second, third, frozen, plan, fields, registered, initial, replaced, again,
      accepted, merged, parsed, lost, kept, root, site, isNote, isOwner⟩ :
      ∃ base first second third frozen plan fields,
        Registry.register "site" [Definition.composite "site"] = .ok base ∧
        base.apply (renovations.getD 0 []) = .ok first ∧
        first.apply (renovations.getD 1 []) = .ok second ∧
        second.apply (renovations.getD 2 []) = .ok third ∧ third.freeze = .ok frozen ∧
        merge [] .empty = .ok (.mapping []) ∧ parse Checks.none frozen [] .empty = .ok plan ∧
        second.contributedFields "site" = ["note"] ∧
        third.contributedFields "site" = ["note", "owner"] ∧ frozen.root = "site" ∧
        frozen.root? = some ⟨"site", .composite fields, []⟩ ∧
        fields.get? "note" = some (Field.optional "note") ∧
        fields.get? "owner" = some (Field.optional "owner") :=
    ⟨_, _, _, _, _, _, _, rfl, rfl, rfl, rfl, rfl, rfl, rfl, rfl, rfl, rfl, rfl, rfl, rfl⟩
  have grownSecond := ((GrownBy.register registered).apply initial).apply replaced
  obtain ⟨before, _⟩ := grownSecond.contributed_exact
  obtain ⟨after, emits⟩ := (grownSecond.apply again).contributed_exact
  have noteLasts := (after "site" "note").mp (by simp [kept])
  have ownerLasts := (after "site" "owner").mp (by simp [kept])
  -- A contributed field without default is null in the plan of no documents at all.
  have isNull {key definition : String} (isField : fields.get? key = some (Field.optional definition))
      (emits : frozen.AlwaysEmits key) : plan.get? key = some .null := by
    obtain ⟨_, _, field, known, isComposite, itsField, sections⟩ := emits
    cases site.symm.trans known
    cases isComposite
    cases isField.symm.trans itsField
    obtain ⟨value, found, isNull⟩ := sections _ _ _ _ plan merged parsed
    rw [found, isNull (by simp [Tree.get?, Tree.entries?]) rfl]
  refine ⟨base, first, second, third, frozen, plan, registered, initial, replaced, again, accepted,
    parsed, ?_, noteLasts, ownerLasts, isNull isNote ?_, isNull isOwner ?_⟩
  · intro lasts
    have contributed := (before "site" "owner").mpr lasts
    simp [lost] at contributed
  · exact emits frozen accepted "note" (root ▸ noteLasts)
  · exact emits frozen accepted "owner" (root ▸ ownerLasts)

end Registry

end Blueprint
