import Blueprint.Proofs.Instance.Unrolling

/-!
# Which documents are built, and into what

`Conforms` is the grammar that a schema describes, and `Normalizes` the normal form
of a tree in it: fields without a value are dropped or have their default, null
stands for an empty composite, list or map, and all else is kept.  On a frozen
registry exactly the conforming trees are built, and the value of what is built is
the normal form (`Registry.Frozen.build_exact`).
-/

namespace Blueprint

/-- The trees that have the form which the definition of a name calls for. -/
inductive Conforms (registry : Registry) : (target : String) → Tree → Prop
  | leaf {target raw definition type}
      (known : registry.definition? target = some definition)
      (kind : definition.kind = .leaf type) (accepted : type.accepts raw = true) :
      Conforms registry target raw
  | fields {target raw definition fields entries}
      (known : registry.definition? target = some definition)
      (kind : definition.kind = .composite fields)
      (readable : raw.asEntries? = some entries)
      (declared : ∀ key ∈ Entries.keys entries, ∃ field, fields.get? key = some field)
      (dispensable : ∀ key field, fields.get? key = some field →
        field.chosen? (Entries.get? entries key) = none → field.required = false)
      (each : ∀ key field value, fields.get? key = some field →
        field.chosen? (Entries.get? entries key) = some value →
        Conforms registry field.definition value) :
      Conforms registry target raw
  | items {target raw definition item items}
      (known : registry.definition? target = some definition)
      (kind : definition.kind = .list item)
      (readable : raw.asItems? = some items)
      (each : ∀ value ∈ items, Conforms registry item value) :
      Conforms registry target raw
  | entries {target raw definition item entries}
      (known : registry.definition? target = some definition)
      (kind : definition.kind = .map item)
      (readable : raw.asEntries? = some entries)
      (each : ∀ entry ∈ entries, Conforms registry item entry.2) :
      Conforms registry target raw

/-- The normal form of a tree under the definition of a name. -/
inductive Normalizes (registry : Registry) : (target : String) → (raw normal : Tree) → Prop
  | leaf {target raw definition type}
      (known : registry.definition? target = some definition)
      (kind : definition.kind = .leaf type) :
      Normalizes registry target raw raw
  | fields {target raw definition fields entries normals}
      (known : registry.definition? target = some definition)
      (kind : definition.kind = .composite fields)
      (readable : raw.asEntries? = some entries)
      (ascending : Entries.Ascending normals)
      (present : ∀ key, (∃ normal, Entries.get? normals key = some normal) ↔
        ∃ field value, fields.get? key = some field ∧
          field.chosen? (Entries.get? entries key) = some value)
      (each : ∀ key field value normal, fields.get? key = some field →
        field.chosen? (Entries.get? entries key) = some value →
        Entries.get? normals key = some normal →
        Normalizes registry field.definition value normal) :
      Normalizes registry target raw (.mapping normals)
  | items {target raw definition item items normals}
      (known : registry.definition? target = some definition)
      (kind : definition.kind = .list item)
      (readable : raw.asItems? = some items)
      (length : normals.length = items.length)
      (each : ∀ (index : Nat) value normal, items[index]? = some value →
        normals[index]? = some normal → Normalizes registry item value normal) :
      Normalizes registry target raw (.sequence normals)
  | entries {target raw definition item entries normals}
      (known : registry.definition? target = some definition)
      (kind : definition.kind = .map item)
      (readable : raw.asEntries? = some entries)
      (keys : Entries.keys normals = Entries.keys entries)
      (each : ∀ (index : Nat) key value normal, entries[index]? = some (key, value) →
        normals[index]? = some (key, normal) → Normalizes registry item value normal) :
      Normalizes registry target raw (.mapping normals)

/-! ## Soundness -/

theorem Built.conforms {registry : Registry} {target name : String} {path : Path} {raw : Tree}
    {node : Instance} (built : Built registry target name path raw node) :
    Conforms registry target raw := by
  induction built with
  | leaf known kind accepted => exact .leaf known kind accepted
  | fields known kind readable declared ascending present dispensable each ih =>
      apply Conforms.fields known kind readable declared dispensable
      intro key field value isField isChosen
      obtain ⟨child, isChild⟩ := (present key).mpr ⟨field, value, isField, isChosen⟩
      exact ih key field value child isField isChosen isChild
  | items known kind itemKnown readable length each ih =>
      apply Conforms.items known kind readable
      intro value member
      obtain ⟨index, inside, rfl⟩ := List.mem_iff_getElem.mp member
      exact ih index _ _ (List.getElem?_eq_getElem inside)
        (List.getElem?_eq_getElem (length ▸ inside))
  | entries known kind itemKnown readable keys each ih =>
      apply Conforms.entries known kind readable
      rintro ⟨key, value⟩ member
      obtain ⟨index, isEntry⟩ := List.mem_iff_getElem?.mp member
      obtain ⟨child, isChild⟩ := Entries.exists_getElem?_of_keys keys.symm isEntry
      exact ih index key value child isEntry isChild

namespace Instance

theorem valueAll_eq_map (nodes : List Instance) : valueAll nodes = nodes.map value := by
  induction nodes with
  | nil => rfl
  | cons node rest ih => rw [valueAll, ih, List.map_cons]

theorem valueEntries_eq_mapValues (nodes : Entries Instance) :
    valueEntries nodes = Entries.mapValues (fun _ => value) nodes := by
  induction nodes with
  | nil => rfl
  | cons entry rest ih =>
      rcases entry with ⟨key, node⟩
      rw [valueEntries, ih]
      rfl

end Instance

theorem Built.normalizes {registry : Registry} {target name : String} {path : Path} {raw : Tree}
    {node : Instance} (built : Built registry target name path raw node) :
    Normalizes registry target raw node.value := by
  induction built with
  | leaf known kind accepted => exact .leaf known kind
  | fields known kind readable declared ascending present dispensable each ih =>
      rw [Instance.value, Instance.valueEntries_eq_mapValues]
      apply Normalizes.fields known kind readable (ascending.mapValues _)
      · intro key
        rw [← present key, Entries.get?_mapValues]
        simp
      · intro key field value normal isField isChosen isNormal
        rw [Entries.get?_mapValues, Option.map_eq_some_iff] at isNormal
        rcases isNormal with ⟨child, isChild, rfl⟩
        exact ih key field value child isField isChosen isChild
  | items known kind itemKnown readable length each ih =>
      rw [Instance.value, Instance.valueAll_eq_map]
      apply Normalizes.items known kind readable
      · rw [List.length_map, length]
      · intro index value normal isItem isNormal
        rw [List.getElem?_map, Option.map_eq_some_iff] at isNormal
        rcases isNormal with ⟨child, isChild, rfl⟩
        exact ih index value child isItem isChild
  | entries known kind itemKnown readable keys each ih =>
      rw [Instance.value, Instance.valueEntries_eq_mapValues]
      apply Normalizes.entries known kind readable
      · rw [Entries.keys_mapValues, keys]
      · intro index key value normal isEntry isNormal
        rw [Entries.mapValues, List.getElem?_map, Option.map_eq_some_iff] at isNormal
        rcases isNormal with ⟨⟨name, child⟩, isChild, same⟩
        cases same
        exact ih index name value child isEntry isChild

/-! ## Uniqueness -/

namespace Entries

variable {α : Type} {left right : Entries α}

/-- Ascending entries with the same names are equal if their values are. -/
theorem Ascending.ext_of_keys (leftAscending : Ascending left) (rightAscending : Ascending right)
    (names : ∀ key, (∃ value, get? left key = some value) ↔ ∃ value, get? right key = some value)
    (same : ∀ key first second, get? left key = some first → get? right key = some second →
      first = second) : left = right := by
  apply leftAscending.ext rightAscending
  intro key
  cases isFirst : get? left key with
  | none =>
      cases isSecond : get? right key with
      | none => rfl
      | some second =>
          obtain ⟨first, held⟩ := (names key).mpr ⟨second, isSecond⟩
          rw [isFirst] at held
          contradiction
  | some first =>
      obtain ⟨second, isSecond⟩ := (names key).mp ⟨first, isFirst⟩
      rw [isSecond, same key first second isFirst isSecond]

/-- Entries with the same names in the same order are equal if their values are. -/
theorem ext_of_keys (names : keys left = keys right)
    (same : ∀ (index : Nat) key first second, left[index]? = some (key, first) →
      right[index]? = some (key, second) → first = second) : left = right := by
  apply List.ext_getElem?
  intro index
  cases isFirst : left[index]? with
  | none =>
      cases isSecond : right[index]? with
      | none => rfl
      | some entry =>
          obtain ⟨first, held⟩ := exists_getElem?_of_keys names.symm isSecond
          rw [isFirst] at held
          contradiction
  | some entry =>
      obtain ⟨key, first⟩ := entry
      obtain ⟨second, isSecond⟩ := exists_getElem?_of_keys names isFirst
      rw [isSecond, same index key first second isFirst isSecond]

end Entries

/-- What a normal form is, by the kind of the definition. -/
theorem Normalizes.inversion {registry : Registry} {target : String} {raw normal : Tree}
    {definition : Definition} (normalizes : Normalizes registry target raw normal)
    (known : registry.definition? target = some definition) :
    match definition.kind with
    | .leaf _ => normal = raw
    | .composite declared => ∃ entries normals, raw.asEntries? = some entries ∧
        normal = .mapping normals ∧ Entries.Ascending normals ∧
        (∀ key, (∃ normal, Entries.get? normals key = some normal) ↔
          ∃ field value, declared.get? key = some field ∧
            field.chosen? (Entries.get? entries key) = some value) ∧
        ∀ key field value normal, declared.get? key = some field →
          field.chosen? (Entries.get? entries key) = some value →
          Entries.get? normals key = some normal →
          Normalizes registry field.definition value normal
    | .list item => ∃ items normals, raw.asItems? = some items ∧ normal = .sequence normals ∧
        normals.length = items.length ∧
        ∀ (index : Nat) value normal, items[index]? = some value →
          normals[index]? = some normal → Normalizes registry item value normal
    | .map item => ∃ entries normals, raw.asEntries? = some entries ∧
        normal = .mapping normals ∧ Entries.keys normals = Entries.keys entries ∧
        ∀ (index : Nat) key value normal, entries[index]? = some (key, value) →
          normals[index]? = some (key, normal) → Normalizes registry item value normal := by
  cases normalizes with
  | leaf itsKnown kind =>
      cases known.symm.trans itsKnown
      rw [kind]
  | fields itsKnown kind readable ascending present each =>
      cases known.symm.trans itsKnown
      rw [kind]
      exact ⟨_, _, readable, rfl, ascending, present, each⟩
  | items itsKnown kind readable length each =>
      cases known.symm.trans itsKnown
      rw [kind]
      exact ⟨_, _, readable, rfl, length, each⟩
  | entries itsKnown kind readable keys each =>
      cases known.symm.trans itsKnown
      rw [kind]
      exact ⟨_, _, readable, rfl, keys, each⟩

/-- A tree has one normal form. -/
theorem Normalizes.unique {registry : Registry} {target : String} {raw left right : Tree}
    (first : Normalizes registry target raw left) (second : Normalizes registry target raw right) :
    left = right := by
  induction first generalizing right with
  | leaf known kind =>
      have shape := second.inversion known
      rw [kind] at shape
      exact shape.symm
  | @fields target raw definition fields entries normals known kind readable ascending present
      each ih =>
      have shape := second.inversion known
      rw [kind] at shape
      rcases shape with ⟨others, results, itsReadable, rfl, itsAscending, itsPresent, itsEach⟩
      cases readable.symm.trans itsReadable
      congr 1
      apply ascending.ext_of_keys itsAscending
      · exact fun key => (present key).trans (itsPresent key).symm
      · intro key normal result isNormal isResult
        obtain ⟨field, value, isField, isChosen⟩ := (present key).mp ⟨normal, isNormal⟩
        exact ih key field value normal isField isChosen isNormal
          (itsEach key field value result isField isChosen isResult)
  | @items target raw definition item items normals known kind readable length each ih =>
      have shape := second.inversion known
      rw [kind] at shape
      rcases shape with ⟨others, results, itsReadable, rfl, itsLength, itsEach⟩
      cases readable.symm.trans itsReadable
      congr 1
      apply List.ext_getElem (length.trans itsLength.symm)
      intro index inside itsInside
      have isItem := List.getElem?_eq_getElem (length ▸ inside)
      exact ih index _ _ isItem (List.getElem?_eq_getElem inside)
        (itsEach index _ _ isItem (List.getElem?_eq_getElem itsInside))
  | @entries target raw definition item entries normals known kind readable keys each ih =>
      have shape := second.inversion known
      rw [kind] at shape
      rcases shape with ⟨others, results, itsReadable, rfl, itsKeys, itsEach⟩
      cases readable.symm.trans itsReadable
      congr 1
      apply Entries.ext_of_keys (keys.trans itsKeys.symm)
      intro index key normal result isNormal isResult
      obtain ⟨value, isEntry⟩ := Entries.exists_getElem?_of_keys keys isNormal
      exact ih index key value normal isEntry isNormal
        (itsEach index key value result isEntry isResult)

/-! ## Completeness -/

section Completeness

variable {registry : Registry} {target : String} {raw : Tree}

theorem Conforms.definition_known (conforms : Conforms registry target raw) :
    ∃ definition, registry.definition? target = some definition := by
  cases conforms with
  | leaf known => exact ⟨_, known⟩
  | fields known => exact ⟨_, known⟩
  | items known => exact ⟨_, known⟩
  | entries known => exact ⟨_, known⟩

/-- A conforming tree is what its definition calls for. -/
theorem Conforms.met {definition : Definition} (conforms : Conforms registry target raw)
    (known : registry.definition? target = some definition) :
    definition.kind.expected.MetBy raw := by
  cases conforms with
  | leaf itsKnown kind accepted =>
      cases known.symm.trans itsKnown
      rw [kind]
      exact accepted
  | fields itsKnown kind readable =>
      cases known.symm.trans itsKnown
      rw [kind]
      exact Option.ne_none_iff_exists'.mpr ⟨_, readable⟩
  | items itsKnown kind readable =>
      cases known.symm.trans itsKnown
      rw [kind]
      exact Option.ne_none_iff_exists'.mpr ⟨_, readable⟩
  | entries itsKnown kind readable =>
      cases known.symm.trans itsKnown
      rw [kind]
      exact Option.ne_none_iff_exists'.mpr ⟨_, readable⟩

theorem Conforms.undeclared?_eq_none {definition : Definition} {fields : Dict Field}
    (conforms : Conforms registry target raw)
    (known : registry.definition? target = some definition)
    (kind : definition.kind = .composite fields) : Build.undeclared? raw fields = none := by
  cases conforms with
  | fields itsKnown itsKind readable declared =>
      cases known.symm.trans itsKnown
      cases kind.symm.trans itsKind
      exact (Build.undeclared?_eq_none_iff readable fields).mpr declared
  | leaf itsKnown itsKind | items itsKnown itsKind | entries itsKnown itsKind =>
      cases known.symm.trans itsKnown
      cases kind.symm.trans itsKind

/-- Something stands at every place of a conforming tree, and it conforms. -/
theorem Conforms.places (conforms : Conforms registry target raw) {step : String}
    {place : Option Fragment}
    (stands : (step, place) ∈ Fragment.places registry ⟨target, raw⟩) :
    ∃ part, place = some part ∧ Conforms registry part.target part.tree := by
  cases conforms with
  | leaf known kind =>
      rw [Fragment.places_leaf known kind] at stands
      contradiction
  | fields known kind readable declared dispensable each =>
      rw [Fragment.places_composite known kind readable] at stands
      rcases List.mem_filterMap.mp stands with ⟨⟨key, field⟩, member, stands⟩
      have isField := Dict.mem_entries_iff.mp member
      cases place with
      | none =>
          rcases Field.place?_eq_some_none stands with ⟨_, absent, required⟩
          rw [dispensable key field isField absent] at required
          contradiction
      | some part =>
          rcases Field.place?_eq_some_part stands with ⟨_, isChosen, isTarget⟩
          exact ⟨part, rfl, isTarget ▸ each key field part.tree isField isChosen⟩
  | items known kind readable each =>
      rw [Fragment.places_list known kind readable] at stands
      rcases List.mem_map.mp stands with ⟨⟨value, index⟩, member, same⟩
      cases same
      exact ⟨_, rfl, each value (List.fst_mem_of_mem_zipIdx member)⟩
  | entries known kind readable each =>
      rw [Fragment.places_map known kind readable] at stands
      rcases List.mem_map.mp stands with ⟨entry, member, same⟩
      cases same
      exact ⟨_, rfl, each entry member⟩

/-- A conforming fragment is built, since nothing in it is refused.  Induction on its parts, which
follows defaults as it does given values. -/
theorem Fragment.exists_build_of_conforms (coherent : registry.Coherent) (whole : Fragment)
    (conforms : Conforms registry whole.target whole.tree) (name : String) (path : Path) :
    ∃ node, whole.build registry name path = .ok node := by
  induction whole using (wellFounded_isPart coherent.acyclic).induction generalizing name path with
  | _ whole deeper =>
      rcases conforms.definition_known with ⟨definition, known⟩
      cases outcome : whole.build registry name path with
      | ok node => exact ⟨node, rfl⟩
      | error cause =>
          cases refused_of_build_error coherent known outcome with
          | unexpectedType itsKnown unmet => exact absurd (conforms.met itsKnown) unmet
          | unknownField itsKnown kind found =>
              rw [conforms.undeclared?_eq_none itsKnown kind] at found
              contradiction
          | place _ stopped =>
              rcases buildPlaces_error stopped with ⟨before, step, place, after, split, _, fails⟩
              have stands : (step, place) ∈ whole.places registry := by
                rw [split]
                exact List.mem_append_right before List.mem_cons_self
              rcases conforms.places stands with ⟨part, rfl, partConforms⟩
              rcases deeper part ⟨step, stands⟩ partConforms step (path.child step) with
                ⟨node, made⟩
              cases made.symm.trans fails

theorem Conforms.exists_build (conforms : Conforms registry target raw)
    (coherent : registry.Coherent) : ∃ node, Instance.build registry target raw = .ok node :=
  Fragment.exists_build_of_conforms coherent ⟨target, raw⟩ conforms "" Path.root

end Completeness

/-- On a frozen registry exactly the trees that conform are built, and the value of
what is built is the normal form of the tree. -/
theorem Registry.Frozen.build_exact {registry : Registry} (frozen : registry.Frozen)
    (target : String) (raw : Tree) :
    ((∃ node, Instance.build registry target raw = .ok node) ↔ Conforms registry target raw) ∧
      ∀ node, Instance.build registry target raw = .ok node →
        ∀ normal, Normalizes registry target raw normal ↔ normal = node.value := by
  constructor
  · constructor
    · rintro ⟨node, built⟩
      exact (built_of_build built).conforms
    · intro conforms
      exact conforms.exists_build frozen.coherent
  · intro node built normal
    have normalizes := (built_of_build built).normalizes
    constructor
    · intro other
      exact other.unique normalizes
    · rintro rfl
      exact normalizes

/-- A schema with a default within a default. -/
def frameSchema : List Definition :=
  [Definition.leaf "width" .integer,
    (Definition.composite "size").withField "width"
      ((Field.optional "width").withDefault (.int 1)),
    (Definition.composite "frame").withField "size"
      ((Field.optional "size").withDefault .null)]

/-- A frame that is not given is built from its defaults. -/
theorem Registry.build_frame :
    ∃ extended registry, Registry.register "frame" frameSchema = .ok extended ∧
      extended.freeze = .ok registry ∧ registry.Frozen ∧ Conforms registry "frame" .null ∧
      Normalizes registry "frame" .null (.mapping [("size", .mapping [("width", .int 1)])]) := by
  obtain ⟨extended, registry, node, registered, accepted, built, value⟩ :
      ∃ extended registry node, Registry.register "frame" frameSchema = .ok extended ∧
        extended.freeze = .ok registry ∧ Instance.build registry "frame" .null = .ok node ∧
        node.value = .mapping [("size", .mapping [("width", .int 1)])] :=
    ⟨_, _, _, rfl, rfl, rfl, rfl⟩
  have frozen : registry.Frozen := ⟨extended, .register registered, accepted⟩
  obtain ⟨accepts, normal⟩ := Registry.Frozen.build_exact frozen "frame" .null
  exact ⟨extended, registry, registered, accepted, frozen, accepts.mp ⟨node, built⟩,
    (normal node built _).mpr value.symm⟩

end Blueprint
