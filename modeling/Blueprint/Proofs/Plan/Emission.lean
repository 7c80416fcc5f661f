import Blueprint.Parse
import Blueprint.Proofs.Instance.Rebuilding
import Blueprint.Proofs.Schema.Contributions

/-!
# What a plan contains

The emission takes the fields that profiles contributed out of the root and puts
them in again one by one.  What comes of that are the `sections` of the root: the
values of its parts, and null for each contributed field that it lacks.  On a frozen
registry the plan of a root that was built has these sections, to which host placement
adds its own (`Frozen.emit_eq`).

`parse_ok_iff` gives the steps from documents to a plan.
-/

namespace Blueprint

namespace Entries

universe u

variable {α : Type u}

/-- What is found among values that are looked up under some keys. -/
theorem get?_filterMap_keys (find : String → Option α) (keys : List String) (key : String) :
    get? (keys.filterMap fun key => (find key).map fun value => (key, value)) key =
      if key ∈ keys then find key else none := by
  induction keys with
  | nil => rfl
  | cons name rest ih =>
      rw [List.filterMap_cons]
      cases found : find name with
      | none =>
          rw [Option.map_none]
          by_cases here : key = name
          · subst here
            simp [ih, found]
          · simp [ih, here]
      | some value =>
          rw [Option.map_some]
          simp only [get?_cons, ih]
          by_cases here : key = name
          · subst here
            simp [found]
          · simp [here, Ne.symm here]

/-- What is found when all keys have one value. -/
theorem get?_map_const (value : α) (keys : List String) (key : String) :
    get? (keys.map fun key => (key, value)) key = if key ∈ keys then some value else none := by
  have same := get?_filterMap_keys (fun _ => some value) keys key
  simp only [Option.map_some] at same
  rwa [List.filterMap_eq_map'] at same

/-- Values that are looked up under ascending keys. -/
theorem ascending_filterMap_keys (find : String → Option α) {keys : List String}
    (ascending : keys.Pairwise (· < ·)) :
    Ascending (keys.filterMap fun key => (find key).map fun value => (key, value)) := by
  apply List.Pairwise.filterMap _ _ ascending
  intro first second before firstEntry isFirst secondEntry isSecond
  obtain ⟨_, _, rfl⟩ := Option.map_eq_some_iff.mp isFirst
  obtain ⟨_, _, rfl⟩ := Option.map_eq_some_iff.mp isSecond
  exact before

theorem ascending_map_const (value : α) {keys : List String}
    (ascending : keys.Pairwise (· < ·)) : Ascending (keys.map fun key => (key, value)) :=
  List.pairwise_map.mpr ascending

end Entries

namespace Plan

theorem insertSection_ok_iff {plan result : Plan} {name : String} {value : Tree} :
    plan.insertSection name value = .ok result ↔
      plan.get? name = none ∧ result = ⟨plan.sections.insert name value⟩ := by
  have isAbsent : plan.contains name = false ↔ plan.get? name = none := by
    rw [contains, Dict.contains, Entries.contains, Option.isSome_eq_false_iff,
      Option.isNone_iff_eq_none]
    rfl
  rw [← isAbsent, insertSection]
  cases plan.contains name <;> simp [eq_comm]

/-- Sections are added if they are new. -/
theorem insertSections_eq {sections whole : Dict Tree} {added : Entries Tree}
    (ascending : added.Ascending) (fresh : ∀ key ∈ added.keys, sections.get? key = none)
    (found : ∀ key, whole.get? key = (added.get? key).or (sections.get? key)) :
    insertSections ⟨sections⟩ added = .ok ⟨whole⟩ := by
  induction added generalizing sections with
  | nil =>
      obtain rfl : whole = sections := Dict.ext_get? found
      rfl
  | cons entry rest ih =>
      obtain ⟨name, value⟩ := entry
      have new : sections.get? name = none := fresh name List.mem_cons_self
      have onlyHere : Entries.get? rest name = none := ascending.get?_rest
      rw [insertSections, insertSection_ok_iff.mpr ⟨new, rfl⟩]
      apply ih (List.pairwise_cons.mp ascending).2
      · intro key member
        have other : name ≠ key := by
          rintro rfl
          exact Entries.get?_eq_none_iff.mp onlyHere member
        rw [Dict.get?_insert, if_neg other]
        exact fresh key (List.mem_cons_of_mem _ member)
      · intro key
        rw [found, Entries.get?_cons, Dict.get?_insert]
        by_cases here : name = key
        · subst here
          rw [if_pos rfl, if_pos rfl, onlyHere]
          rfl
        · rw [if_neg here, if_neg here]

end Plan

/-- The values of the parts of a composite or map, or the entries of a leaf. -/
def Instance.valuesByKey (node : Instance) : Entries Tree :=
  match node.value with
  | .mapping values => values
  | _ => []

theorem Instance.valuesByKey_fields (header : Header) (children : Entries Instance) :
    (Instance.fields header children).valuesByKey =
      Entries.mapValues (fun _ => Instance.value) children := by
  rw [valuesByKey, value, valueEntries_eq_mapValues]

theorem Instance.valuesByKey_entries (header : Header) (children : Entries Instance) :
    (Instance.entries header children).valuesByKey =
      Entries.mapValues (fun _ => Instance.value) children := by
  rw [valuesByKey, value, valueEntries_eq_mapValues]

theorem Instance.withoutFields_nil (node : Instance) : node.withoutFields [] = node := by
  cases node with
  | fields header children => simp [Instance.withoutFields, Entries.filterKeys]
  | _ => rfl

theorem Built.valuesByKey_ascending {registry : Registry} {target name : String} {path : Path}
    {values : Dict Tree} {node : Instance}
    (built : Built registry target name path (.mapping values.entries) node) :
    node.valuesByKey.Ascending := by
  cases built with
  | leaf => exact values.ascending
  | fields _ _ _ _ ascending =>
      rw [Instance.valuesByKey_fields]
      exact ascending.mapValues _
  | items _ _ _ readable => contradiction
  | entries _ _ _ readable keys =>
      cases readable
      rw [Instance.valuesByKey_entries]
      exact (values.ascending.of_keys keys.symm).mapValues _

namespace Plan

theorem emit_eq (root : Instance) (extras : List (String × Instance)) :
    emit root extras = insertSections ⟨Dict.ofList root.valuesByKey⟩
      (extras.map fun extra => (extra.1, extra.2.value)) := by
  rw [emit, Instance.valuesByKey]
  cases root.value <;> rfl

/-- Fields that are taken out of a composite and put in again are where they were. -/
theorem emit_withoutFields (header : Header) {children : Entries Instance} {keys : List String}
    (ascending : Entries.Ascending children) (keysAscending : keys.Pairwise (· < ·)) :
    emit ((Instance.fields header children).withoutFields keys)
      (keys.filterMap fun key => (Entries.get? children key).map fun child => (key, child)) =
        .ok ⟨Dict.ofList (Instance.fields header children).valuesByKey⟩ := by
  have extrasAscending := Entries.ascending_filterMap_keys (Entries.get? children) keysAscending
  have isExtra := Entries.get?_filterMap_keys (Entries.get? children) keys
  generalize (keys.filterMap fun key =>
    (Entries.get? children key).map fun child => (key, child)) = extras at extrasAscending isExtra ⊢
  have remaining := ascending.filterKeys (!keys.contains ·)
  have left : ∀ key, (Dict.ofList (Entries.mapValues (fun _ => Instance.value)
      (Entries.filterKeys children (!keys.contains ·)))).get? key =
        if key ∈ keys then none else (Entries.get? children key).map Instance.value := by
    intro key
    rw [Dict.get?_ofList (remaining.mapValues _), Entries.get?_mapValues, Entries.get?_filterKeys]
    by_cases member : key ∈ keys <;> simp [member]
  have extra : ∀ key, Entries.get? (Entries.mapValues (fun _ => Instance.value) extras) key =
      if key ∈ keys then (Entries.get? children key).map Instance.value else none := by
    intro key
    rw [Entries.get?_mapValues, isExtra]
    by_cases member : key ∈ keys <;> simp [member]
  rw [emit_eq, Instance.withoutFields, Instance.valuesByKey_fields, Instance.valuesByKey_fields]
  apply insertSections_eq (extrasAscending.mapValues fun _ => Instance.value)
  · intro key member
    rw [left]
    by_cases contributed : key ∈ keys
    · exact if_pos contributed
    · exfalso
      apply Entries.get?_eq_none_iff.mp _ member
      rw [extra, if_neg contributed]
  · intro key
    rw [Dict.get?_ofList (ascending.mapValues _), Entries.get?_mapValues, left]
    change _ = (Entries.get? (Entries.mapValues (fun _ => Instance.value) extras) key).or _
    rw [extra]
    by_cases contributed : key ∈ keys <;> simp [contributed]

end Plan

namespace Registry

theorem contributedFields_ascending (registry : Registry) (target : String) :
    (registry.contributedFields target).Pairwise (· < ·) := by
  unfold contributedFields
  split
  · exact List.Pairwise.nil
  · next keys _ => exact List.pairwise_map.mpr keys.ascending

/-- The sections of the plan of a root, before hosts are placed: the values of its parts, and
null for each contributed field that it lacks. -/
def sections (registry : Registry) (root : Instance) : Dict Tree :=
  (Dict.ofList ((registry.contributedFields registry.root).map fun key => (key, .null))).insertAll
    root.valuesByKey

theorem get?_sections (registry : Registry) {root : Instance}
    (ascending : root.valuesByKey.Ascending) (key : String) :
    (registry.sections root).get? key = (root.valuesByKey.get? key).or
      (if key ∈ registry.contributedFields registry.root then some .null else none) := by
  have nulls := Entries.ascending_map_const Tree.null
    (registry.contributedFields_ascending registry.root)
  have found := ascending.get?_insertAll (Dict.ofList ((registry.contributedFields registry.root).map
    fun key => (key, Tree.null))).entries key
  have isNull := Dict.get?_ofList nulls key
  rw [Entries.get?_map_const] at isNull
  exact found.trans (congrArg _ isNull)

/-- The last step of the emission. -/
def place (registry : Registry) (plan : Plan) : Except EmitError Plan :=
  match registry.placement with
  | none => .ok plan
  | some placement => placement.assemble plan

/-- Null sections are added for contributed fields without a value. -/
theorem insertSections_absentSections (registry : Registry) {root : Instance}
    (ascending : root.valuesByKey.Ascending) :
    Plan.insertSections ⟨Dict.ofList root.valuesByKey⟩
      (absentSections (registry.contributedFields registry.root) ⟨Dict.ofList root.valuesByKey⟩) =
        .ok ⟨registry.sections root⟩ := by
  have keysAscending := registry.contributedFields_ascending registry.root
  have found := registry.get?_sections ascending
  generalize registry.contributedFields registry.root = keys at keysAscending found ⊢
  have isNull : ∀ key,
      Entries.get? (absentSections keys ⟨Dict.ofList root.valuesByKey⟩) key =
        if key ∈ keys ∧ root.valuesByKey.get? key = none then some Tree.null else none := by
    intro key
    have lacks : (Plan.mk (Dict.ofList root.valuesByKey)).contains key =
        (root.valuesByKey.get? key).isSome :=
      congrArg Option.isSome (Dict.get?_ofList ascending key)
    rw [absentSections, Entries.get?_map_const]
    simp only [List.mem_filter, lacks, Bool.not_eq_true', Option.isSome_eq_false_iff,
      Option.isNone_iff_eq_none]
  apply Plan.insertSections_eq
  · exact Entries.ascending_map_const Tree.null (keysAscending.filter _)
  · intro key member
    rw [Dict.get?_ofList ascending]
    by_contra given
    apply Entries.get?_eq_none_iff.mp _ member
    rw [isNull, if_neg fun lacks => given lacks.2]
  · intro key
    rw [found, isNull, Dict.get?_ofList ascending]
    cases root.valuesByKey.get? key with
    | none => by_cases contributed : key ∈ keys <;> simp [contributed]
    | some value => simp

/-- The plan of a composite has its sections. -/
theorem emit_fields (registry : Registry) {header : Header} {children : Entries Instance}
    (ascending : Entries.Ascending children) :
    registry.emit (.fields header children) =
      registry.place ⟨registry.sections (.fields header children)⟩ := by
  have valuesAscending : (Instance.fields header children).valuesByKey.Ascending := by
    rw [Instance.valuesByKey_fields]
    exact ascending.mapValues _
  have first := Plan.emit_withoutFields header ascending
    (registry.contributedFields_ascending registry.root)
  have second := registry.insertSections_absentSections valuesAscending
  unfold emit
  dsimp only [Instance.child?]
  rw [first]
  dsimp only
  rw [second]
  rfl

/-- So has the plan of any other root, if there are no contributions to it. -/
theorem emit_of_contributedFields {registry : Registry} {root : Instance}
    (none : registry.contributedFields registry.root = []) :
    registry.emit root = registry.place ⟨registry.sections root⟩ := by
  unfold emit
  rw [none]
  dsimp only [List.filterMap_nil]
  have whole : registry.sections root = Dict.ofList root.valuesByKey := by
    rw [sections, none]
    rfl
  rw [root.withoutFields_nil, Plan.emit_eq, whole]
  rfl

/-- The contributions to a definition are fields of a composite. -/
theorem Frozen.contributedFields_eq_nil {registry : Registry} (frozen : registry.Frozen)
    {target : String} {definition : Definition}
    (known : registry.definition? target = some definition)
    (plain : ∀ fields, definition.kind ≠ .composite fields) :
    registry.contributedFields target = [] := by
  apply List.eq_nil_iff_forall_not_mem.mpr
  intro key contributed
  obtain ⟨_, itsKnown, fields, isComposite, _⟩ := frozen.contributionsDeclared target key contributed
  cases known.symm.trans itsKnown
  exact plain fields (Definition.kind_eq_of_fields? isComposite)

/-- A root is a composite, or nothing was contributed to it. -/
theorem Frozen.composite_or_plain {registry : Registry} (frozen : registry.Frozen) {raw : Tree}
    {root : Instance} (built : Built registry registry.root "" Path.root raw root) :
    (∃ header children, root = .fields header children ∧ Entries.Ascending children) ∨
      registry.contributedFields registry.root = [] := by
  cases built with
  | fields _ _ _ _ ascending => exact .inl ⟨_, _, rfl, ascending⟩
  | leaf known kind | items known kind | entries known kind =>
      exact .inr (frozen.contributedFields_eq_nil known (by simp [kind]))

/-- The plan of a root that was built has the sections of the root. -/
theorem Frozen.emit_eq {registry : Registry} (frozen : registry.Frozen) {raw : Tree}
    {root : Instance} (built : Built registry registry.root "" Path.root raw root) :
    registry.emit root = registry.place ⟨registry.sections root⟩ := by
  rcases frozen.composite_or_plain built with ⟨_, _, rfl, ascending⟩ | plain
  · exact emit_fields registry ascending
  · exact emit_of_contributedFields plain

/-! ## Placements -/

/-- A plan without the section that host placement adds. -/
def unplaced (registry : Registry) (plan : Plan) : Plan :=
  match registry.placement with
  | none => plan
  | some _ => ⟨plan.sections.filterKeys (· != Placement.sectionName)⟩

theorem unplaced_of_place {registry : Registry} {plan placed : Plan}
    (assembled : registry.place plan = .ok placed) : registry.unplaced placed = plan := by
  unfold place at assembled
  unfold unplaced
  split at assembled
  · cases assembled
    rfl
  · obtain ⟨absent, rfl⟩ := Plan.insertSection_ok_iff.mp assembled
    congr 1
    apply Dict.ext_get?
    intro key
    rw [Dict.get?_filterKeys, Dict.get?_insert]
    by_cases same : key = Placement.sectionName
    · subst same
      rw [Plan.get?] at absent
      simp [absent]
    · simp [same, Ne.symm same]

theorem get?_unplaced (registry : Registry) (plan : Plan) {key : String}
    (other : key ≠ Placement.sectionName) : (registry.unplaced plan).get? key = plan.get? key := by
  unfold unplaced
  split
  · rfl
  · have kept := Dict.get?_filterKeys plan.sections (· != Placement.sectionName) key
    rwa [if_pos (by simpa using other)] at kept

/-- The sections of an emitted plan, apart from that of the host placement. -/
theorem emit_get? {registry : Registry} {header : Header} {children : Entries Instance}
    {plan : Plan} (emitted : registry.emit (.fields header children) = .ok plan)
    (ascending : Entries.Ascending children) {key : String}
    (other : key ≠ Placement.sectionName) :
    plan.get? key = ((Entries.get? children key).map Instance.value).or
      (if key ∈ registry.contributedFields registry.root then some .null else none) := by
  have valuesAscending : (Instance.fields header children).valuesByKey.Ascending := by
    rw [Instance.valuesByKey_fields]
    exact ascending.mapValues _
  rw [emit_fields registry ascending] at emitted
  rw [← registry.get?_unplaced plan other, unplaced_of_place emitted, Plan.get?,
    registry.get?_sections valuesAscending, Instance.valuesByKey_fields, Entries.get?_mapValues]

end Registry

/-! ## Parsing -/

/-- The steps from documents to a plan. -/
theorem parse_ok_iff {checks : Checks} {registry : Registry} {sources : List Source}
    {policies : PolicyTable} {plan : Plan} :
    parse checks registry sources policies = .ok plan ↔
      registry.frozen = true ∧ ∃ merged root, merge sources policies = .ok merged ∧
        registry.structural merged = .ok root ∧
        Validation.validate checks registry root = .ok () ∧ registry.emit root = .ok plan := by
  constructor
  · intro parsed
    unfold parse at parsed
    split at parsed
    · next isFrozen =>
        split at parsed
        · contradiction
        · next merged isMerged =>
            unfold parseMerged at parsed
            split at parsed
            · contradiction
            · next root built =>
                split at parsed
                · contradiction
                · next valid =>
                    split at parsed
                    · contradiction
                    · next emitted =>
                        cases parsed
                        exact ⟨isFrozen, merged, root, isMerged, built, valid, emitted⟩
    · contradiction
  · rintro ⟨isFrozen, merged, root, isMerged, built, valid, emitted⟩
    rw [parse, if_pos isFrozen, isMerged]
    dsimp only
    rw [parseMerged, built]
    dsimp only
    rw [valid]
    dsimp only
    rw [emitted]

end Blueprint
