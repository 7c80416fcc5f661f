import Blueprint.Instance.Build

/-!
# What building makes

`Built` relates a raw tree to the node that is built for it against a definition:
which children the node has, where they are, and what they are built from.  Every
node that `Instance.build` answers stands in this relation to its tree, with any
bound on the nesting of defaults (`built_of_build`).

The relation refers to definitions by name and to parts by key or index, so that
no order of the walk is left in it.
-/

namespace Blueprint

namespace Tree

/-- The items that a list is read from: null counts as an empty sequence. -/
def asItems? : Tree → Option (List Tree)
  | .null => some []
  | .sequence items => some items
  | _ => none

/-- The entries that a composite or map is read from: null counts as an empty
mapping. -/
def asEntries? : Tree → Option (Entries Tree)
  | .null => some []
  | .mapping entries => some entries
  | _ => none

end Tree

theorem Tree.mem_parts_of_asItems? {tree part : Tree} {items : List Tree}
    (readable : tree.asItems? = some items) (member : part ∈ items) : part ∈ tree.parts := by
  cases tree with
  | null =>
      cases readable
      exact absurd member List.not_mem_nil
  | sequence held =>
      cases readable
      exact member
  | _ => contradiction

theorem Tree.mem_parts_of_asEntries? {tree : Tree} {entries : Entries Tree}
    (readable : tree.asEntries? = some entries) {entry : String × Tree} (member : entry ∈ entries) :
    entry.2 ∈ tree.parts := by
  cases tree with
  | null =>
      cases readable
      exact absurd member List.not_mem_nil
  | mapping held =>
      cases readable
      exact List.mem_map_of_mem member
  | _ => contradiction

theorem Tree.Ordered.ascending_of_asEntries? {tree : Tree} {entries : Entries Tree}
    (ordered : tree.Ordered) (readable : tree.asEntries? = some entries) : entries.Ascending := by
  cases tree with
  | null =>
      cases readable
      exact List.Pairwise.nil
  | mapping held =>
      cases readable
      exact ordered.1
  | _ => contradiction

/-- What a field is read from: the given value unless it is null, or else the
default. -/
def Field.chosen? (field : Field) (given : Option Tree) : Option Tree :=
  (given.filter fun value => !value.isNull).or field.default

/-- A field is read from the given value or from its default. -/
theorem Field.given_or_default {field : Field} {given : Option Tree} {value : Tree}
    (isChosen : field.chosen? given = some value) :
    given = some value ∨ field.default = some value := by
  rcases Option.or_eq_some_iff.mp isChosen with isGiven | ⟨_, isDefault⟩
  · exact .inl (Option.filter_eq_some_iff.mp isGiven).1
  · exact .inr isDefault

/-- What is built for a tree against the definition of a name, under a name and at
a path. -/
inductive Built (registry : Registry) : (target name : String) → Path → Tree → Instance → Prop
  | leaf {target name path raw definition type}
      (known : registry.definition? target = some definition)
      (kind : definition.kind = .leaf type) (accepted : type.accepts raw = true) :
      Built registry target name path raw (.leaf ⟨definition.name, name, path⟩ raw)
  | fields {target name path raw definition fields entries children}
      (known : registry.definition? target = some definition)
      (kind : definition.kind = .composite fields)
      (readable : raw.asEntries? = some entries)
      (declared : ∀ key ∈ Entries.keys entries, ∃ field, fields.get? key = some field)
      (ascending : Entries.Ascending children)
      (present : ∀ key, (∃ child, Entries.get? children key = some child) ↔
        ∃ field value, fields.get? key = some field ∧
          field.chosen? (Entries.get? entries key) = some value)
      (dispensable : ∀ key field, fields.get? key = some field →
        field.chosen? (Entries.get? entries key) = none → field.required = false)
      (each : ∀ key field value child, fields.get? key = some field →
        field.chosen? (Entries.get? entries key) = some value →
        Entries.get? children key = some child →
        Built registry field.definition key (path.child key) value child) :
      Built registry target name path raw (.fields ⟨definition.name, name, path⟩ children)
  | items {target name path raw definition item items children}
      (known : registry.definition? target = some definition)
      (kind : definition.kind = .list item)
      (itemKnown : ∃ itemDefinition, registry.definition? item = some itemDefinition)
      (readable : raw.asItems? = some items)
      (length : children.length = items.length)
      (each : ∀ (index : Nat) value child, items[index]? = some value →
        children[index]? = some child →
        Built registry item (toString index) (path.child (toString index)) value child) :
      Built registry target name path raw (.items ⟨definition.name, name, path⟩ children)
  | entries {target name path raw definition item entries children}
      (known : registry.definition? target = some definition)
      (kind : definition.kind = .map item)
      (itemKnown : ∃ itemDefinition, registry.definition? item = some itemDefinition)
      (readable : raw.asEntries? = some entries)
      (keys : Entries.keys children = Entries.keys entries)
      (each : ∀ (index : Nat) key value child, entries[index]? = some (key, value) →
        children[index]? = some (key, child) →
        Built registry item key (path.child key) value child) :
      Built registry target name path raw (.entries ⟨definition.name, name, path⟩ children)

/-- A node has the name and the path for which it was built. -/
theorem Built.located {registry : Registry} {target name : String} {path : Path} {raw : Tree}
    {node : Instance} (built : Built registry target name path raw node) :
    node.name = name ∧ node.path = path := by
  cases built <;> exact ⟨rfl, rfl⟩

/-- What a node is, by the kind of the definition. -/
theorem Built.inversion {registry : Registry} {target name : String} {path : Path} {raw : Tree}
    {node : Instance} {definition : Definition} (built : Built registry target name path raw node)
    (known : registry.definition? target = some definition) :
    match definition.kind with
    | .leaf type => type.accepts raw = true ∧ node = .leaf ⟨definition.name, name, path⟩ raw
    | .composite declared => ∃ entries children, raw.asEntries? = some entries ∧
        node = .fields ⟨definition.name, name, path⟩ children ∧ Entries.Ascending children ∧
        (∀ key, (∃ child, Entries.get? children key = some child) ↔
          ∃ field value, declared.get? key = some field ∧
            field.chosen? (Entries.get? entries key) = some value) ∧
        (∀ key field, declared.get? key = some field →
          field.chosen? (Entries.get? entries key) = none → field.required = false) ∧
        ∀ key field value child, declared.get? key = some field →
          field.chosen? (Entries.get? entries key) = some value →
          Entries.get? children key = some child →
          Built registry field.definition key (path.child key) value child
    | .list item => ∃ items children, raw.asItems? = some items ∧
        node = .items ⟨definition.name, name, path⟩ children ∧
        children.length = items.length ∧
        ∀ (index : Nat) value child, items[index]? = some value →
          children[index]? = some child →
          Built registry item (toString index) (path.child (toString index)) value child
    | .map item => ∃ entries children, raw.asEntries? = some entries ∧
        node = .entries ⟨definition.name, name, path⟩ children ∧
        Entries.keys children = Entries.keys entries ∧
        ∀ (index : Nat) key value child, entries[index]? = some (key, value) →
          children[index]? = some (key, child) →
          Built registry item key (path.child key) value child := by
  cases built with
  | leaf itsKnown kind accepted =>
      cases known.symm.trans itsKnown
      rw [kind]
      exact ⟨accepted, rfl⟩
  | fields itsKnown kind readable declared ascending present dispensable each =>
      cases known.symm.trans itsKnown
      rw [kind]
      exact ⟨_, _, readable, rfl, ascending, present, dispensable, each⟩
  | items itsKnown kind itemKnown readable length each =>
      cases known.symm.trans itsKnown
      rw [kind]
      exact ⟨_, _, readable, rfl, length, each⟩
  | entries itsKnown kind itemKnown readable keys each =>
      cases known.symm.trans itsKnown
      rw [kind]
      exact ⟨_, _, readable, rfl, keys, each⟩

namespace Build

/-! ## Builders of parts -/

/-- The builders of the parts of a tree. -/
def partsOf (registry : Registry) (substitute : Tree → Builder) : Tree → Parts
  | .sequence items => .items (items.map (builder registry substitute))
  | .mapping entries =>
      .entries (Entries.mapValues (fun _ => builder registry substitute) entries)
  | _ => .none

theorem builderAll_eq_map (registry : Registry) (substitute : Tree → Builder)
    (items : List Tree) :
    builderAll registry substitute items = items.map (builder registry substitute) := by
  induction items with
  | nil => rfl
  | cons item rest ih => rw [builderAll, ih, List.map_cons]

theorem builderEntries_eq_mapValues (registry : Registry) (substitute : Tree → Builder)
    (entries : Entries Tree) :
    builderEntries registry substitute entries =
      Entries.mapValues (fun _ => builder registry substitute) entries := by
  induction entries with
  | nil => rfl
  | cons entry rest ih =>
      rcases entry with ⟨key, value⟩
      rw [builderEntries, ih]
      rfl

/-- A tree is built from its parts by the same builder. -/
theorem builder_eq (registry : Registry) (substitute : Tree → Builder) (raw : Tree) :
    builder registry substitute raw =
      buildNode registry substitute raw (partsOf registry substitute raw) := by
  cases raw with
  | sequence items => rw [builder, builderAll_eq_map, partsOf]
  | mapping entries => rw [builder, builderEntries_eq_mapValues, partsOf]
  | _ => rw [builder, partsOf] <;> simp

/-- How a field is built: not at all, from the given value, or from its default,
which is left to the substitute. -/
theorem fieldBuilder?_cases (registry : Registry) (substitute : Tree → Builder) {raw : Tree}
    {entries : Entries Tree} (readable : raw.asEntries? = some entries) (key : String)
    (field : Field) :
    (field.chosen? (Entries.get? entries key) = none ∧
      fieldBuilder? substitute raw (partsOf registry substitute raw) key field = none) ∨
    (∃ value, (key, value) ∈ entries ∧
      field.chosen? (Entries.get? entries key) = some value ∧
      fieldBuilder? substitute raw (partsOf registry substitute raw) key field =
        some (builder registry substitute value)) ∨
    ∃ value, field.default = some value ∧
      field.chosen? (Entries.get? entries key) = some value ∧
      fieldBuilder? substitute raw (partsOf registry substitute raw) key field =
        some (substitute value) := by
  have same : fieldBuilder? substitute raw (partsOf registry substitute raw) key field =
      (((Entries.get? entries key).filter fun value => !value.isNull).map
        (builder registry substitute)).or (field.default.map substitute) := by
    cases raw with
    | null =>
        cases readable
        rfl
    | mapping held =>
        cases readable
        unfold fieldBuilder? partsOf Parts.get?
        simp only [Tree.get?, Tree.entries?, Option.bind_some, Entries.get?_mapValues]
        cases Entries.get? entries key with
        | none => rfl
        | some value => cases value <;> rfl
    | _ => contradiction
  rw [same, Field.chosen?]
  cases given : (Entries.get? entries key).filter fun value => !value.isNull with
  | some value =>
      have found := (Option.filter_eq_some_iff.mp given).1
      exact Or.inr (Or.inl ⟨value, Entries.mem_of_get? found, rfl, rfl⟩)
  | none =>
      cases field.default with
      | none => exact Or.inl ⟨rfl, rfl⟩
      | some value => exact Or.inr (Or.inr ⟨value, rfl, rfl, rfl⟩)

theorem undeclared?_eq_none_iff {raw : Tree} {entries : Entries Tree}
    (readable : raw.asEntries? = some entries) (fields : Dict Field) :
    undeclared? raw fields = none ↔
      ∀ key ∈ Entries.keys entries, ∃ field, fields.get? key = some field := by
  cases raw with
  | null =>
      cases readable
      simp [undeclared?, Entries.keys]
  | mapping held =>
      cases readable
      simp only [undeclared?, List.find?_eq_none, ← Option.isSome_iff_exists]
      apply forall_congr'
      intro key
      apply imp_congr_right
      intro _
      rw [Bool.not_eq_true, Bool.not_eq_false']
      rfl
  | _ => contradiction

section Equations

variable (registry : Registry) (substitute : Tree → Builder) (raw : Tree) {definition : Definition}
  (name : String) (path : Path)

theorem builder_leaf {type : LeafType} (kind : definition.kind = .leaf type) :
    builder registry substitute raw definition name path =
      if type.accepts raw then .ok (.leaf ⟨definition.name, name, path⟩ raw)
      else .error (.unexpectedType path (.leaf type) raw.shape) := by
  rw [builder_eq, buildNode, kind]

theorem builder_composite {fields : Dict Field} (kind : definition.kind = .composite fields) :
    builder registry substitute raw definition name path =
      match raw.asEntries? with
      | none => .error (.unexpectedType path .mapping raw.shape)
      | some _ =>
          match undeclared? raw fields with
          | some key => .error (.unknownField path key)
          | none =>
              match buildFields registry substitute raw (partsOf registry substitute raw) path
                fields.entries with
              | .error cause => .error cause
              | .ok children => .ok (.fields ⟨definition.name, name, path⟩ children) := by
  rw [builder_eq, buildNode, kind]
  cases raw <;> rfl

theorem builder_list {item : String} (kind : definition.kind = .list item) :
    builder registry substitute raw definition name path =
      match lookUp registry item path with
      | .error cause => .error cause
      | .ok itemDefinition =>
          match raw.asItems? with
          | none => .error (.unexpectedType path .sequence raw.shape)
          | some items =>
              match buildItems itemDefinition path 0 (items.map (builder registry substitute)) with
              | .error cause => .error cause
              | .ok children => .ok (.items ⟨definition.name, name, path⟩ children) := by
  rw [builder_eq, buildNode, kind]
  cases raw <;> rfl

theorem builder_map {item : String} (kind : definition.kind = .map item) :
    builder registry substitute raw definition name path =
      match lookUp registry item path with
      | .error cause => .error cause
      | .ok itemDefinition =>
          match raw.asEntries? with
          | none => .error (.unexpectedType path .mapping raw.shape)
          | some entries =>
              match buildEntries itemDefinition path
                (Entries.mapValues (fun _ => builder registry substitute) entries) with
              | .error cause => .error cause
              | .ok children => .ok (.entries ⟨definition.name, name, path⟩ children) := by
  rw [builder_eq, buildNode, kind]
  cases raw <;> rfl

end Equations

/-! ## Lists of parts -/

/-- Items are built in place, each under its index. -/
theorem buildItems_ok {definition : Definition} {path : Path} {index : Nat}
    {builders : List Builder} {nodes : List Instance}
    (made : buildItems definition path index builders = .ok nodes) :
    nodes.length = builders.length ∧
      ∀ (offset : Nat) builder node, builders[offset]? = some builder →
        nodes[offset]? = some node →
        builder definition (toString (index + offset)) (path.child (toString (index + offset))) =
          .ok node := by
  induction builders generalizing index nodes with
  | nil =>
      cases made
      exact ⟨rfl, by simp⟩
  | cons builder rest ih =>
      unfold buildItems at made
      dsimp only at made
      split at made
      · contradiction
      · next node first =>
          split at made
          · contradiction
          · next others later =>
              cases made
              rcases ih later with ⟨length, each⟩
              constructor
              · rw [List.length_cons, List.length_cons, length]
              · intro offset chosen result isBuilder isNode
                cases offset with
                | zero =>
                    cases isBuilder
                    cases isNode
                    exact first
                | succ offset =>
                    rw [← Nat.succ_add_eq_add_succ]
                    exact each offset chosen result isBuilder isNode

/-- Entries are built in place, each under its key. -/
theorem buildEntries_ok {definition : Definition} {path : Path} {builders : List (String × Builder)}
    {nodes : Entries Instance} (made : buildEntries definition path builders = .ok nodes) :
    Entries.keys nodes = Entries.keys builders ∧
      ∀ (index : Nat) key builder node, builders[index]? = some (key, builder) →
        nodes[index]? = some (key, node) → builder definition key (path.child key) = .ok node := by
  induction builders generalizing nodes with
  | nil =>
      cases made
      exact ⟨rfl, by simp⟩
  | cons entry rest ih =>
      rcases entry with ⟨key, builder⟩
      unfold buildEntries at made
      split at made
      · contradiction
      · next node first =>
          split at made
          · contradiction
          · next others later =>
              cases made
              rcases ih later with ⟨keys, each⟩
              constructor
              · exact congrArg (key :: ·) keys
              · intro index name chosen result isBuilder isNode
                cases index with
                | zero =>
                    cases isBuilder
                    cases isNode
                    exact first
                | succ index => exact each index name chosen result isBuilder isNode

section Fields

variable {registry : Registry} {substitute : Tree → Builder} {raw : Tree} {parts : Parts}
  {path : Path}

/-- Nodes that are built for fields: one for each field with a value. -/
inductive FieldsBuilt (registry : Registry) (substitute : Tree → Builder) (raw : Tree)
    (parts : Parts) (path : Path) : Entries Field → Entries Instance → Prop
  | nil : FieldsBuilt registry substitute raw parts path [] []
  | skip {key field rest nodes}
      (absent : fieldBuilder? substitute raw parts key field = none)
      (dispensable : field.required = false)
      (others : FieldsBuilt registry substitute raw parts path rest nodes) :
      FieldsBuilt registry substitute raw parts path ((key, field) :: rest) nodes
  | keep {key field rest builder definition node nodes}
      (chosen : fieldBuilder? substitute raw parts key field = some builder)
      (known : registry.definition? field.definition = some definition)
      (built : builder definition key (path.child key) = .ok node)
      (others : FieldsBuilt registry substitute raw parts path rest nodes) :
      FieldsBuilt registry substitute raw parts path ((key, field) :: rest) ((key, node) :: nodes)

theorem lookUp_ok {name : String} {definition : Definition}
    (found : lookUp registry name path = .ok definition) :
    registry.definition? name = some definition := by
  unfold lookUp at found
  split at found
  · next known =>
      cases found
      exact known
  · contradiction

theorem lookUp_eq {name : String} {definition : Definition}
    (known : registry.definition? name = some definition) (path : Path) :
    lookUp registry name path = .ok definition := by
  rw [lookUp, known]

/-- Fields are built in key order. -/
theorem buildFields_ok {fields : Entries Field} {nodes : Entries Instance}
    (made : buildFields registry substitute raw parts path fields = .ok nodes) :
    FieldsBuilt registry substitute raw parts path fields nodes := by
  induction fields generalizing nodes with
  | nil =>
      cases made
      exact .nil
  | cons entry rest ih =>
      rcases entry with ⟨key, field⟩
      unfold buildFields at made
      split at made
      · next absent =>
          split at made
          · contradiction
          · next dispensable => exact .skip absent (by simpa using dispensable) (ih made)
      · next builder chosen =>
          split at made
          · contradiction
          · next definition found =>
              split at made
              · contradiction
              · next node built =>
                  split at made
                  · contradiction
                  · next others later =>
                      cases made
                      exact .keep chosen (lookUp_ok found) built (ih later)

theorem FieldsBuilt.keys_sublist {fields : Entries Field} {nodes : Entries Instance}
    (built : FieldsBuilt registry substitute raw parts path fields nodes) :
    (Entries.keys nodes).Sublist (Entries.keys fields) := by
  induction built with
  | nil => exact List.Sublist.slnil
  | skip _ _ _ ih => exact ih.cons _
  | keep _ _ _ _ ih => exact ih.cons_cons _

theorem FieldsBuilt.ascending {fields : Entries Field} {nodes : Entries Instance}
    (built : FieldsBuilt registry substitute raw parts path fields nodes)
    (ascending : Entries.Ascending fields) : Entries.Ascending nodes := by
  unfold Entries.Ascending at ascending ⊢
  rw [← List.pairwise_map] at ascending ⊢
  exact ascending.sublist built.keys_sublist

/-- What is found under a key among the nodes that are built for fields. -/
theorem FieldsBuilt.get?_nodes {fields : Entries Field} {nodes : Entries Instance}
    (built : FieldsBuilt registry substitute raw parts path fields nodes)
    (ascending : Entries.Ascending fields) (key : String) :
    match Entries.get? fields key with
    | none => Entries.get? nodes key = none
    | some field =>
        match fieldBuilder? substitute raw parts key field with
        | none => field.required = false ∧ Entries.get? nodes key = none
        | some builder => ∃ definition node,
            registry.definition? field.definition = some definition ∧
            builder definition key (path.child key) = .ok node ∧
            Entries.get? nodes key = some node := by
  induction built with
  | nil => rfl
  | @skip name field rest nodes absent dispensable others ih =>
      have later := ih (List.pairwise_cons.mp ascending).2
      rw [Entries.get?_cons]
      by_cases here : name = key
      · subst here
        rw [ascending.get?_rest] at later
        rw [if_pos rfl]
        dsimp only
        rw [absent]
        exact ⟨dispensable, later⟩
      · rw [if_neg here]
        exact later
  | @keep name field rest builder definition node nodes chosen known built others ih =>
      have later := ih (List.pairwise_cons.mp ascending).2
      rw [Entries.get?_cons, Entries.get?_cons]
      by_cases here : name = key
      · subst here
        rw [if_pos rfl, if_pos rfl]
        dsimp only
        rw [chosen]
        exact ⟨definition, node, known, built, rfl⟩
      · rw [if_neg here, if_neg here]
        exact later

end Fields

/-! ## Soundness -/

/-- What a builder makes of a tree is what `Built` allows. -/
def Sound (registry : Registry) (raw : Tree) (builder : Builder) : Prop :=
  ∀ target definition name path node, registry.definition? target = some definition →
    builder definition name path = .ok node → Built registry target name path raw node

section Soundness

variable {registry : Registry} {substitute : Tree → Builder} {raw : Tree} {target name : String}
  {path : Path} {definition : Definition} {node : Instance}
  (known : registry.definition? target = some definition)
  (built : builder registry substitute raw definition name path = .ok node)
  (parts : ∀ part ∈ raw.parts, Sound registry part (builder registry substitute part))

include known built

theorem built_leaf {type : LeafType} (kind : definition.kind = .leaf type) :
    Built registry target name path raw node := by
  rw [builder_leaf registry substitute raw name path kind] at built
  split at built
  · next accepted =>
      cases built
      exact .leaf known kind accepted
  · contradiction

include parts

omit known built in
/-- What is found under a key among the children of a composite. -/
theorem built_field {fields : Entries Field} {entries : Entries Tree} {children : Entries Instance}
    (defaults : ∀ value, Sound registry value (substitute value))
    (readable : raw.asEntries? = some entries) (ascending : Entries.Ascending fields)
    (made : FieldsBuilt registry substitute raw (partsOf registry substitute raw) path fields
      children) (key : String) :
    match Entries.get? fields key with
    | none => Entries.get? children key = none
    | some field =>
        match field.chosen? (Entries.get? entries key) with
        | none => field.required = false ∧ Entries.get? children key = none
        | some value => ∃ child, Entries.get? children key = some child ∧
            Built registry field.definition key (path.child key) value child := by
  have found := made.get?_nodes ascending key
  cases isField : Entries.get? fields key with
  | none =>
      rw [isField] at found
      exact found
  | some field =>
      rw [isField] at found
      dsimp only at found ⊢
      rcases fieldBuilder?_cases registry substitute readable key field with
        ⟨absent, none⟩ | ⟨value, member, isChosen, isBuilder⟩ | ⟨value, _, isChosen, isBuilder⟩
      · rw [none] at found
        rw [absent]
        exact found
      · rw [isBuilder] at found
        rw [isChosen]
        rcases found with ⟨definition, child, itsKnown, itsBuilt, isChild⟩
        exact ⟨child, isChild, parts value (Tree.mem_parts_of_asEntries? readable member)
          _ definition _ _ child itsKnown itsBuilt⟩
      · rw [isBuilder] at found
        rw [isChosen]
        rcases found with ⟨definition, child, itsKnown, itsBuilt, isChild⟩
        exact ⟨child, isChild, defaults value _ definition _ _ child itsKnown itsBuilt⟩

theorem built_fields {fields : Dict Field} (kind : definition.kind = .composite fields)
    (defaults : ∀ value, Sound registry value (substitute value)) :
    Built registry target name path raw node := by
  rw [builder_composite registry substitute raw name path kind] at built
  split at built
  · contradiction
  · next entries readable =>
      split at built
      · contradiction
      · next declared =>
          rw [undeclared?_eq_none_iff readable] at declared
          split at built
          · contradiction
          · next children made =>
              cases built
              have fieldsBuilt := buildFields_ok made
              have found := built_field parts defaults readable fields.ascending fieldsBuilt
              apply Built.fields known kind readable declared
                (fieldsBuilt.ascending fields.ascending)
              · intro key
                have atKey := found key
                unfold Dict.get?
                split at atKey
                · next none => simp [none, atKey]
                · next field isField =>
                    split at atKey
                    · next absent => simp [isField, absent, atKey.2]
                    · next value isChosen =>
                        rcases atKey with ⟨child, isChild, _⟩
                        simp [isField, isChosen, isChild]
              · intro key field isField absent
                have atKey := found key
                unfold Dict.get? at isField
                simp only [isField, absent] at atKey
                exact atKey.1
              · intro key field value child isField isChosen isChild
                have atKey := found key
                unfold Dict.get? at isField
                simp only [isField, isChosen, isChild, Option.some.injEq] at atKey
                rcases atKey with ⟨child, rfl, itsBuilt⟩
                exact itsBuilt

theorem built_items {item : String} (kind : definition.kind = .list item) :
    Built registry target name path raw node := by
  rw [builder_list registry substitute raw name path kind] at built
  split at built
  · contradiction
  · next itemDefinition found =>
      have itemKnown := lookUp_ok found
      split at built
      · contradiction
      · next items readable =>
          split at built
          · contradiction
          · next children made =>
              cases built
              rcases buildItems_ok made with ⟨length, each⟩
              rw [List.length_map] at length
              apply Built.items known kind ⟨itemDefinition, itemKnown⟩ readable length
              intro index value child isItem isChild
              have member := Tree.mem_parts_of_asItems? readable (List.mem_of_getElem? isItem)
              have fromItem := each index (builder registry substitute value) child
                (by rw [List.getElem?_map, isItem]; rfl) isChild
              rw [Nat.zero_add] at fromItem
              exact parts value member item itemDefinition _ _ child itemKnown fromItem

theorem built_entries {item : String} (kind : definition.kind = .map item) :
    Built registry target name path raw node := by
  rw [builder_map registry substitute raw name path kind] at built
  split at built
  · contradiction
  · next itemDefinition found =>
      have itemKnown := lookUp_ok found
      split at built
      · contradiction
      · next entries readable =>
          split at built
          · contradiction
          · next children made =>
              cases built
              rcases buildEntries_ok made with ⟨keys, each⟩
              rw [Entries.keys_mapValues] at keys
              apply Built.entries known kind ⟨itemDefinition, itemKnown⟩ readable keys
              intro index key value child isEntry isChild
              have member := Tree.mem_parts_of_asEntries? readable (List.mem_of_getElem? isEntry)
              have fromEntry := each index key (builder registry substitute value) child
                (by rw [Entries.mapValues, List.getElem?_map, isEntry]; rfl) isChild
              exact parts value member item itemDefinition _ _ child itemKnown fromEntry

end Soundness

/-- Induction on the tree: given parts are smaller, and defaults are left to the
substitute. -/
theorem sound_builder {registry : Registry} {substitute : Tree → Builder}
    (defaults : ∀ value, Sound registry value (substitute value)) (raw : Tree) :
    Sound registry raw (builder registry substitute raw) := by
  induction raw using Tree.induction with
  | step raw parts =>
      intro target definition name path node known built
      cases kind : definition.kind with
      | leaf type => exact built_leaf known built kind
      | composite fields => exact built_fields known built parts kind defaults
      | list item => exact built_items known built parts kind
      | map item => exact built_entries known built parts kind

theorem sound_builderWithin (registry : Registry) (levels : Nat) (raw : Tree) :
    Sound registry raw (builderWithin registry levels raw) := by
  induction levels generalizing raw with
  | zero => exact sound_builder (fun value target definition name path node _ built => by
      contradiction) raw
  | succ levels ih => exact sound_builder ih raw

end Build

/-- A node that is answered for a document is built for it at the root. -/
theorem built_of_build {registry : Registry} {target : String} {raw : Tree} {node : Instance}
    (built : Instance.build registry target raw = .ok node) :
    Built registry target "" Path.root raw node := by
  unfold Instance.build at built
  split at built
  · contradiction
  · next definition found =>
      exact Build.sound_builderWithin registry _ raw target definition _ _ node
        (Build.lookUp_ok found) built

end Blueprint
