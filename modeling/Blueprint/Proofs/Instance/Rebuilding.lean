import Blueprint.Proofs.Instance.Conformance

/-!
# Building from values

The value of a node is built into the same node again (`Built.rebuilt`).  What makes this
so is that a field which reads null can only have read the default, and reads it again if
null is given or nothing at all; so the values of the fields of a composite may stand for
its document with or without the nulls among them (`Built.of_values`).

Nodes are determined by their documents (`Built.unique`), so on a frozen registry `Built`
is what `Instance.build` answers.
-/

namespace Blueprint

/-- A given value that counts. -/
abbrev filled (given : Option Tree) : Option Tree :=
  given.filter fun value => !value.isNull

theorem Tree.isNull_iff {tree : Tree} : tree.isNull = true ↔ tree = .null := by
  cases tree <;> simp [isNull]

theorem Field.chosen?_filled {field : Field} {value : Tree} (some : value ≠ .null) :
    field.chosen? (.some value) = .some value := by
  have isSome : value.isNull = false := by simpa [← Tree.isNull_iff] using some
  simp [chosen?, Option.filter_some, isSome]

/-- A field reads null only from its default. -/
theorem Field.default_of_chosen?_null {field : Field} {given : Option Tree}
    (isChosen : field.chosen? given = some .null) : field.default = some .null := by
  change (filled given).or field.default = some .null at isChosen
  cases isFilled : filled given with
  | none => rwa [isFilled, Option.none_or] at isChosen
  | some value =>
      rw [isFilled, Option.some_or] at isChosen
      cases isChosen
      have isSome := (Option.filter_eq_some_iff.mp isFilled).2
      contradiction

theorem Field.chosen?_congr (field : Field) {first second : Option Tree}
    (same : filled first = filled second) : field.chosen? first = field.chosen? second :=
  congrArg (·.or field.default) same

section

variable {registry : Registry} {target name : String} {path : Path}

/-- A node of null is a leaf that read null. -/
theorem Built.null_of_value {raw : Tree} {node : Instance}
    (built : Built registry target name path raw node) (isNull : node.value = .null) :
    raw = .null := by
  cases built with
  | leaf => exact isNull
  | _ => simp [Instance.value] at isNull

section

variable {definition : Definition} {fields : Dict Field} {children : Entries Instance}
  {given entries : Entries Tree}
  (present : ∀ key, (∃ child, Entries.get? children key = some child) ↔
    ∃ field value, fields.get? key = some field ∧
      field.chosen? (Entries.get? given key) = some value)
  (each : ∀ key field value child, fields.get? key = some field →
    field.chosen? (Entries.get? given key) = some value →
    Entries.get? children key = some child →
    Built registry field.definition key (path.child key) value child)
  (same : ∀ key, filled (Entries.get? entries key) =
    filled ((Entries.get? children key).map Instance.value))

include present

/-- A field without a child has not been read. -/
theorem unread_of_absent {key : String} {field : Field} (isField : fields.get? key = some field)
    (absent : Entries.get? children key = none) :
    field.chosen? (Entries.get? given key) = none := by
  cases isChosen : field.chosen? (Entries.get? given key) with
  | none => rfl
  | some value =>
      obtain ⟨child, isChild⟩ := (present key).mpr ⟨field, value, isField, isChosen⟩
      rw [absent] at isChild
      contradiction

include each same

/-- From the values of its children a composite reads these values, even where nulls are left
out. -/
theorem chosen?_values {key : String} {field : Field} (isField : fields.get? key = some field) :
    field.chosen? (Entries.get? entries key) =
      (Entries.get? children key).map Instance.value := by
  rw [field.chosen?_congr (same key)]
  cases isChild : Entries.get? children key with
  | none =>
      -- Without a value there is no default either.
      exact (Option.or_eq_none_iff.mp (unread_of_absent present isField isChild)).2
  | some child =>
      obtain ⟨_, value, itsField, isChosen⟩ := (present key).mp ⟨child, isChild⟩
      cases isField.symm.trans itsField
      rw [Option.map_some]
      by_cases isNull : child.value = .null
      · have fromNull := (each key field value child isField isChosen isChild).null_of_value isNull
        have nullDefault := Field.default_of_chosen?_null (fromNull ▸ isChosen)
        rw [isNull, Field.chosen?, nullDefault]
        rfl
      · exact Field.chosen?_filled isNull

/-- A composite is built again from the values of its fields, of which those that are null may
be left out, if the fields are built from theirs. -/
theorem Built.of_values (known : registry.definition? target = some definition)
    (kind : definition.kind = .composite fields) (ascending : Entries.Ascending children)
    (dispensable : ∀ key field, fields.get? key = some field →
      field.chosen? (Entries.get? given key) = none → field.required = false)
    (again : ∀ key field value child, fields.get? key = some field →
      field.chosen? (Entries.get? given key) = some value →
      Entries.get? children key = some child →
      Built registry field.definition key (path.child key) child.value child)
    (held : ∀ key ∈ Entries.keys entries, ∃ child, Entries.get? children key = some child) :
    Built registry target name path (.mapping entries)
      (.fields ⟨definition.name, name, path⟩ children) := by
  apply Built.fields known kind rfl _ ascending
  case present =>
    intro key
    constructor
    · rintro ⟨child, isChild⟩
      obtain ⟨field, _, isField, _⟩ := (present key).mp ⟨child, isChild⟩
      have isValue := chosen?_values present each same isField
      rw [isChild] at isValue
      exact ⟨field, child.value, isField, isValue⟩
    · rintro ⟨field, value, isField, isChosen⟩
      rw [chosen?_values present each same isField, Option.map_eq_some_iff] at isChosen
      exact isChosen.imp fun _ => And.left
  case dispensable =>
    intro key field isField unread
    rw [chosen?_values present each same isField, Option.map_eq_none_iff] at unread
    exact dispensable key field isField (unread_of_absent present isField unread)
  case each =>
    intro key field value child isField isChosen isChild
    rw [chosen?_values present each same isField, isChild] at isChosen
    cases isChosen
    obtain ⟨_, read, itsField, isRead⟩ := (present key).mp ⟨child, isChild⟩
    cases isField.symm.trans itsField
    exact again key field read child isField isRead isChild
  · intro key member
    obtain ⟨child, isChild⟩ := held key member
    obtain ⟨field, _, isField, _⟩ := (present key).mp ⟨child, isChild⟩
    exact ⟨field, isField⟩

end

/-- The value of a node is built into the node. -/
theorem Built.rebuilt {raw : Tree} {node : Instance}
    (built : Built registry target name path raw node) :
    Built registry target name path node.value node := by
  induction built with
  | leaf known kind accepted => exact .leaf known kind accepted
  | @fields target name path raw definition fields entries children known kind readable declared
      ascending present dispensable each ih =>
      rw [Instance.value, Instance.valueEntries_eq_mapValues]
      have same : ∀ key,
          filled (Entries.get? (Entries.mapValues (fun _ => Instance.value) children) key) =
            filled ((Entries.get? children key).map Instance.value) := by
        intro key
        rw [Entries.get?_mapValues]
      apply Built.of_values present each same known kind ascending dispensable ih
      intro key member
      rwa [Entries.keys_mapValues, Entries.mem_keys_iff, Entries.contains,
        Option.isSome_iff_exists] at member
  | @items target name path raw definition item items children known kind itemKnown readable length
      each ih =>
      rw [Instance.value, Instance.valueAll_eq_map]
      apply Built.items known kind itemKnown rfl (List.length_map _).symm
      intro index value child isValue isChild
      have inside : index < items.length := by
        rw [← length]
        exact (List.getElem?_eq_some_iff.mp isChild).1
      rw [List.getElem?_map, isChild, Option.map_some, Option.some.injEq] at isValue
      subst isValue
      exact ih index _ child (List.getElem?_eq_getElem inside) isChild
  | @entries target name path raw definition item entries children known kind itemKnown readable
      keys each ih =>
      rw [Instance.value, Instance.valueEntries_eq_mapValues]
      apply Built.entries known kind itemKnown rfl (Entries.keys_mapValues _ _).symm
      intro index key value child isValue isChild
      obtain ⟨raw, isEntry⟩ := Entries.exists_getElem?_of_keys keys isChild
      rw [Entries.mapValues, List.getElem?_map, isChild] at isValue
      cases isValue
      exact ih index key raw child isEntry isChild

/-- A tree is built into one node. -/
theorem Built.unique {raw : Tree} {left right : Instance}
    (first : Built registry target name path raw left)
    (second : Built registry target name path raw right) : left = right := by
  induction first generalizing right with
  | leaf known kind =>
      have shape := second.inversion known
      rw [kind] at shape
      exact shape.2.symm
  | @fields target name path raw definition fields entries children known kind readable declared
      ascending present dispensable each ih =>
      have shape := second.inversion known
      rw [kind] at shape
      obtain ⟨_, others, itsReadable, rfl, itsAscending, itsPresent, _, itsEach⟩ := shape
      cases readable.symm.trans itsReadable
      congr 1
      apply ascending.ext_of_keys itsAscending
      · exact fun key => (present key).trans (itsPresent key).symm
      · intro key child other isChild isOther
        obtain ⟨field, value, isField, isChosen⟩ := (present key).mp ⟨child, isChild⟩
        exact ih key field value child isField isChosen isChild
          (itsEach key field value other isField isChosen isOther)
  | @items target name path raw definition item items children known kind itemKnown readable length
      each ih =>
      have shape := second.inversion known
      rw [kind] at shape
      obtain ⟨_, others, itsReadable, rfl, itsLength, itsEach⟩ := shape
      cases readable.symm.trans itsReadable
      congr 1
      apply List.ext_getElem (length.trans itsLength.symm)
      intro index inside itsInside
      have isItem := List.getElem?_eq_getElem (length ▸ inside)
      exact ih index _ _ isItem (List.getElem?_eq_getElem inside)
        (itsEach index _ _ isItem (List.getElem?_eq_getElem itsInside))
  | @entries target name path raw definition item entries children known kind itemKnown readable
      keys each ih =>
      have shape := second.inversion known
      rw [kind] at shape
      obtain ⟨_, others, itsReadable, rfl, itsKeys, itsEach⟩ := shape
      cases readable.symm.trans itsReadable
      congr 1
      apply Entries.ext_of_keys (keys.trans itsKeys.symm)
      intro index key child other isChild isOther
      obtain ⟨value, isEntry⟩ := Entries.exists_getElem?_of_keys keys isChild
      exact ih index key value child isEntry isChild
        (itsEach index key value other isEntry isOther)

end

/-- A node knows the definition against which it was built. -/
theorem Built.definition_eq {registry : Registry} {target name : String} {path : Path}
    {raw : Tree} {node : Instance} (built : Built registry target name path raw node)
    (frozen : registry.Frozen) : node.definition = target := by
  cases built with
  | leaf known => exact frozen.named known
  | fields known => exact frozen.named known
  | items known => exact frozen.named known
  | entries known => exact frozen.named known

theorem Built.definition?_node {registry : Registry} {target name : String} {path : Path}
    {raw : Tree} {node : Instance} (built : Built registry target name path raw node)
    (frozen : registry.Frozen) :
    registry.definition? node.definition = registry.definition? target :=
  congrArg registry.definition? (built.definition_eq frozen)

/-- On a frozen registry a document is built into a node exactly if `Built` relates them. -/
theorem Registry.Frozen.build_iff_built {registry : Registry} (frozen : registry.Frozen)
    {target : String} {raw : Tree} {node : Instance} :
    Instance.build registry target raw = .ok node ↔
      Built registry target "" Path.root raw node := by
  constructor
  · exact built_of_build
  · intro built
    obtain ⟨other, answered⟩ := built.conforms.exists_build frozen.coherent
    rw [answered, built.unique (built_of_build answered)]

end Blueprint
