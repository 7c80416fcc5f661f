import Blueprint.Config
import Blueprint.Proofs.Files.Ordering
import Blueprint.Proofs.Instance.Defaults
import Blueprint.Proofs.Schema.Activation
import Blueprint.Proofs.Schema.Effect

/-!
# Defaults that were read

Parts of ordered trees are ordered, so the defaults in a profile that was read from a file are
(`Files.profile_defaultsOrdered`).  A directive adds no other default to a schema than those of the
definitions that it holds, and the defaults of the built-in definitions have no parts.  So the
defaults of every schema that a configuration activates are ordered:
`Config.activate_defaultsOrdered`.
-/

namespace Blueprint

/-- The defaults of a composite are ordered. -/
def Kind.DefaultsOrdered : Kind → Prop
  | .composite fields => ∀ field ∈ fields.values, ∀ value ∈ field.default, value.Ordered
  | _ => True

/-- The defaults of a definition are ordered. -/
def Definition.DefaultsOrdered (definition : Definition) : Prop :=
  definition.kind.DefaultsOrdered

/-- The defaults in a directive are ordered. -/
def Directive.DefaultsOrdered (directive : Directive) : Prop :=
  ∀ definition ∈ directive.definitions, definition.DefaultsOrdered

/-- The defaults in a profile are ordered. -/
def Profile.DefaultsOrdered (profile : Profile) : Prop :=
  ∀ directive ∈ profile.directives, directive.DefaultsOrdered

/-! ## Reading -/

namespace Form

/-- What is read from ordered trees has a property. -/
def Yields {α : Type} (motive : α → Prop) (read : Tree → Option α) : Prop :=
  ∀ tree value, tree.Ordered → read tree = some value → motive value

/-- Parts that are ordered. -/
def PartsOrdered (parts : Entries Tree) : Prop :=
  ∀ entry ∈ parts, entry.2.Ordered

theorem parts?_ordered {names : List String} : Yields PartsOrdered (parts? names) := by
  intro tree parts ordered isRead
  cases tree with
  | mapping entries =>
      cases isRead
      exact (Tree.ordered_mapping_iff.mp ordered).2
  | sequence items =>
      obtain ⟨_, isZip⟩ := Option.ite_none_right_eq_some.mp isRead
      cases isZip
      exact fun entry member => Tree.orderedAll_iff.mp ordered _ (List.of_mem_zip member).2
  | _ => contradiction

theorem tagged?_ordered {tag : String} {variants : List Variant} {numbered : Bool} :
    Yields (fun tagged => PartsOrdered tagged.2) (tagged? tag variants numbered) := by
  intro tree tagged ordered isRead
  unfold tagged? at isRead
  split at isRead
  · simp only [Option.bind_eq_bind, Option.bind_eq_some_iff] at isRead
    obtain ⟨_, _, _, _, same⟩ := isRead
    cases same
    exact fun entry member =>
      (Tree.ordered_mapping_iff.mp ordered).2 entry (List.mem_of_mem_filter member)
  · simp only [Option.bind_eq_bind, Option.bind_eq_some_iff] at isRead
    obtain ⟨_, _, parts, isParts, same⟩ := isRead
    cases same
    exact parts?_ordered (.sequence _) parts ordered.2 isParts
  · contradiction

section

variable {α : Type} {motive : α → Prop} {read : Tree → Option α}

theorem Yields.needed? (yields : Yields motive read) {parts : Entries Tree} {name : String}
    {value : α} (ordered : PartsOrdered parts) (isPart : needed? parts name read = some value) :
    motive value := by
  obtain ⟨tree, held, isRead⟩ := Option.bind_eq_some_iff.mp isPart
  exact yields tree value (ordered _ (Entries.mem_of_get? held)) isRead

theorem Yields.optional? (yields : Yields motive read) {parts : Entries Tree} {name : String}
    {absent value : α} (ordered : PartsOrdered parts) (otherwise : motive absent)
    (isPart : optional? parts name absent read = some value) : motive value := by
  unfold Form.optional? at isPart
  split at isPart
  · cases isPart
    exact otherwise
  · next tree held => exact yields tree value (ordered _ (Entries.mem_of_get? held)) isPart

theorem Yields.nullable? (yields : Yields motive read) :
    Yields (fun value => ∀ part ∈ value, motive part) (nullable? read) := by
  intro tree value ordered isRead part isPart
  unfold Form.nullable? at isRead
  split at isRead
  · cases isRead
    contradiction
  · obtain ⟨inner, isInner, rfl⟩ := Option.map_eq_some_iff.mp isRead
    cases isPart
    exact yields tree part ordered isInner

theorem readAll?_forall (yields : Yields motive read) {items : List Tree} {values : List α}
    (ordered : ∀ item ∈ items, item.Ordered) (isRead : readAll? read items = some values) :
    ∀ value ∈ values, motive value := by
  induction items generalizing values with
  | nil =>
      cases isRead
      exact List.forall_mem_nil _
  | cons item rest ih =>
      obtain ⟨here, others⟩ := List.forall_mem_cons.mp ordered
      unfold readAll? at isRead
      split at isRead
      · next value later first rest =>
          cases isRead
          exact List.forall_mem_cons.mpr ⟨yields item value here first, ih others rest⟩
      · contradiction

theorem Yields.list? (yields : Yields motive read) :
    Yields (fun values => ∀ value ∈ values, motive value) (list? read) := by
  intro tree values ordered isRead
  unfold Form.list? at isRead
  split at isRead
  · exact readAll?_forall yields (Tree.orderedAll_iff.mp ordered) isRead
  · contradiction

theorem readEntries?_forall (yields : Yields motive read) {entries : List (String × Tree)}
    {values : Entries α} (ordered : PartsOrdered entries)
    (isRead : readEntries? read entries = some values) : ∀ entry ∈ values, motive entry.2 := by
  induction entries generalizing values with
  | nil =>
      cases isRead
      exact List.forall_mem_nil _
  | cons entry rest ih =>
      obtain ⟨name, tree⟩ := entry
      obtain ⟨here, others⟩ := List.forall_mem_cons.mp ordered
      unfold readEntries? at isRead
      split at isRead
      · next value later first rest =>
          cases isRead
          exact List.forall_mem_cons.mpr ⟨yields tree value here first, ih others rest⟩
      · contradiction

theorem Yields.dict? (yields : Yields motive read) :
    Yields (fun dict => ∀ value ∈ dict.values, motive value) (dict? read) := by
  intro tree dict ordered isRead
  unfold Form.dict? at isRead
  split at isRead
  · next entries =>
      obtain ⟨values, all, rfl⟩ := Option.map_eq_some_iff.mp isRead
      intro value isValue
      obtain ⟨entry, isEntry, rfl⟩ := List.mem_map.mp isValue
      have added := (Entries.mem_insertAll isEntry).resolve_right List.not_mem_nil
      exact readEntries?_forall yields (Tree.ordered_mapping_iff.mp ordered).2 all entry added
  · contradiction

end

end Form

theorem Field.ofTree?_ordered :
    Form.Yields (fun field : Field => ∀ value ∈ field.default, value.Ordered) Field.ofTree? := by
  intro tree field ordered isRead
  simp only [ofTree?, Option.bind_eq_bind, Option.bind_eq_some_iff] at isRead
  obtain ⟨parts, isParts, _, _, _, _, default, isDefault, same⟩ := isRead
  cases same
  have some_yields : Form.Yields Tree.Ordered some := by
    rintro tree _ ordered ⟨⟩
    exact ordered
  exact some_yields.nullable?.optional? (Form.parts?_ordered tree parts ordered isParts)
    (fun _ member => absurd member (Option.not_mem_none _)) isDefault

theorem Kind.ofParts?_ordered {parts : Entries Tree} {kind : Kind}
    (ordered : Form.PartsOrdered parts) (isRead : ofParts? parts = some kind) :
    kind.DefaultsOrdered := by
  simp only [ofParts?, Option.bind_eq_bind, Option.bind_eq_some_iff] at isRead
  obtain ⟨_, _, _, _, isKind⟩ := isRead
  split at isKind
  · obtain ⟨_, _, rfl⟩ := Option.map_eq_some_iff.mp isKind
    trivial
  · obtain ⟨fields, isFields, rfl⟩ := Option.map_eq_some_iff.mp isKind
    exact Field.ofTree?_ordered.dict?.optional? ordered
      (List.forall_mem_nil _) isFields
  · obtain ⟨_, _, rfl⟩ := Option.map_eq_some_iff.mp isKind
    trivial
  · obtain ⟨_, _, rfl⟩ := Option.map_eq_some_iff.mp isKind
    trivial
  · contradiction

theorem Definition.ofTree?_ordered {numbered : Bool} :
    Form.Yields Definition.DefaultsOrdered (Definition.ofTree? numbered) := by
  intro tree definition ordered isRead
  unfold ofTree? at isRead
  split at isRead
  · simp only [Option.bind_eq_bind, Option.bind_eq_some_iff] at isRead
    obtain ⟨_, _, kind, isKind, _, _, same⟩ := isRead
    cases same
    exact Kind.ofParts?_ordered (Tree.ordered_mapping_iff.mp ordered).2 isKind
  · contradiction

theorem Directive.ofTree?_ordered :
    Form.Yields Directive.DefaultsOrdered Directive.ofTree? := by
  intro tree directive ordered isRead
  simp only [ofTree?, Option.bind_eq_bind, Option.bind_eq_some_iff] at isRead
  obtain ⟨tagged, isTagged, _, _, isDirective⟩ := isRead
  have parts : Form.PartsOrdered tagged.2 := Form.tagged?_ordered tree tagged ordered isTagged
  have definitions := @Definition.ofTree?_ordered true
  split at isDirective
  · simp only [Option.bind_eq_some_iff] at isDirective
    obtain ⟨definition, isDefinition, supporting, isSupporting, same⟩ := isDirective
    cases same
    have own := definitions.needed? parts isDefinition
    have others := definitions.list?.optional? parts (List.forall_mem_nil _) isSupporting
    exact List.forall_mem_cons.mpr ⟨own, others⟩
  · simp only [Option.bind_eq_some_iff] at isDirective
    obtain ⟨_, _, definition, isDefinition, _, _, supporting, isSupporting, same⟩ := isDirective
    cases same
    have own := definitions.needed? parts isDefinition
    have others := definitions.list?.optional? parts (List.forall_mem_nil _) isSupporting
    exact List.forall_mem_cons.mpr ⟨own, others⟩
  · simp only [Option.bind_eq_some_iff] at isDirective
    obtain ⟨_, _, same⟩ := isDirective
    cases same
    exact List.forall_mem_nil _
  · contradiction

/-- The defaults in a profile that was read are ordered. -/
theorem Profile.ofTree?_ordered :
    Form.Yields Profile.DefaultsOrdered Profile.ofTree? := by
  intro tree profile ordered isRead
  simp only [ofTree?, Option.bind_eq_bind, Option.bind_eq_some_iff] at isRead
  obtain ⟨parts, isParts, _, _, _, _, directives, areDirectives, _, _, _, _, same⟩ := isRead
  cases same
  exact Directive.ofTree?_ordered.list?.optional? (Form.parts?_ordered tree parts ordered isParts)
    (List.forall_mem_nil _) areDirectives

theorem Files.profile_defaultsOrdered {files : Files} {path : String} {profile : Profile}
    (loaded : files.profile path = .ok profile) : profile.DefaultsOrdered := by
  unfold Files.profile at loaded
  split at loaded
  · cases loaded
  · next tree isTree =>
      split at loaded
      · next read =>
          cases loaded
          exact Profile.ofTree?_ordered tree profile (Files.load_ordered isTree) read
      · cases loaded

/-! ## Extending a schema -/

theorem Definition.defaultsOrdered_iff {definition : Definition} :
    definition.DefaultsOrdered ↔
      ∀ value ∈ definition.defaults.filterMap Field.default, value.Ordered := by
  obtain ⟨name, kind, validators⟩ := definition
  cases kind with
  | composite fields =>
      simp only [DefaultsOrdered, Kind.DefaultsOrdered, defaults, fields?, Kind.fields?,
        List.mem_filterMap, List.mem_filter]
      constructor
      · rintro ordered value ⟨field, ⟨isField, _⟩, isDefault⟩
        exact ordered field isField value isDefault
      · intro ordered field isField value isDefault
        exact ordered value
          ⟨field, ⟨isField, Option.isSome_iff_exists.mpr ⟨value, isDefault⟩⟩, isDefault⟩
  | _ => exact iff_of_true trivial (List.forall_mem_nil _)

theorem Tree.ordered_of_plain {tree : Tree} (plain : tree.parts.isEmpty = true) :
    tree.Ordered := by
  cases tree with
  | sequence items =>
      cases List.isEmpty_iff.mp (show items.isEmpty = true from plain)
      trivial
  | mapping entries =>
      rw [List.map_eq_nil_iff.mp (List.isEmpty_iff.mp plain)]
      exact ordered_mapping_nil
  | _ => trivial

theorem Definition.defaultsOrdered_of_plain {definition : Definition}
    (plain : ∀ value ∈ definition.defaults.filterMap Field.default, value.parts.isEmpty = true) :
    definition.DefaultsOrdered :=
  defaultsOrdered_iff.mpr fun value isDefault => Tree.ordered_of_plain (plain value isDefault)

/-- A revised definition has the defaults of the definition before it or of the one that replaces
it. -/
theorem Directive.DefaultsOrdered.revise {directive : Directive} {existing : Definition}
    (ordered : directive.DefaultsOrdered) (itsOrdered : existing.DefaultsOrdered) :
    (directive.revise existing).DefaultsOrdered := by
  cases directive with
  | replace target definition supporting => exact ordered definition List.mem_cons_self
  | addToSchema target key definition required supporting =>
      obtain ⟨name, kind, validators⟩ := existing
      cases kind with
      | composite fields =>
          intro field isField value isDefault
          obtain ⟨other, isOther⟩ := Dict.mem_values_iff.mp isField
          rw [Dict.get?_insert] at isOther
          split at isOther
          · cases isOther
            contradiction
          · exact itsOrdered field (Dict.mem_values_iff.mpr ⟨other, isOther⟩) value isDefault
      | _ => exact itsOrdered
  | addBehavior target validators => exact itsOrdered

theorem Directive.supplied_subset (directive : Directive) :
    directive.supplied ⊆ directive.definitions := by
  cases directive with
  | replace target definition supporting => exact List.subset_cons_self _ _
  | addToSchema target key definition required supporting =>
      simp [supplied, definitions]
  | addBehavior target validators => exact List.Subset.refl _

namespace Registry

theorem defaultsOrdered_iff {registry : Registry} :
    registry.DefaultsOrdered ↔
      ∀ name definition, registry.definition? name = some definition →
        definition.DefaultsOrdered := by
  simp only [DefaultsOrdered, defaultTrees, List.mem_flatMap, Definition.defaultsOrdered_iff]
  constructor
  · intro ordered name definition known value isDefault
    exact ordered value ⟨definition, Dict.mem_values_iff.mpr ⟨name, known⟩, isDefault⟩
  · rintro ordered value ⟨definition, member, isDefault⟩
    obtain ⟨name, known⟩ := Dict.mem_values_iff.mp member
    exact ordered name definition known value isDefault

theorem register_defaultsOrdered {root : String} {base : List Definition} {registry : Registry}
    (registered : Registry.register root base = .ok registry)
    (ordered : ∀ definition ∈ base, definition.DefaultsOrdered) : registry.DefaultsOrdered := by
  rw [defaultsOrdered_iff]
  intro name definition known
  rw [register_definition? registered] at known
  exact ordered definition (List.mem_of_find?_eq_some known)

theorem applyOne_defaultsOrdered {registry result : Registry} {directive : Directive}
    (ordered : registry.DefaultsOrdered) (itsOrdered : directive.DefaultsOrdered)
    (applied : registry.applyOne directive = .ok result) : result.DefaultsOrdered := by
  rw [defaultsOrdered_iff] at ordered ⊢
  intro name definition known
  rw [applyOne_act applied, Directive.act] at known
  split at known
  · obtain ⟨existing, isExisting, rfl⟩ := Option.map_eq_some_iff.mp known
    exact itsOrdered.revise (ordered name existing isExisting)
  · rcases Option.or_eq_some_iff.mp known with before | ⟨_, new⟩
    · exact ordered name definition before
    · exact itsOrdered definition
        (directive.supplied_subset (List.mem_of_find?_eq_some new))

theorem freeze_defaultsOrdered {registry frozen : Registry} (ordered : registry.DefaultsOrdered)
    (accepted : registry.freeze = .ok frozen) : frozen.DefaultsOrdered := by
  rw [DefaultsOrdered, defaultTrees, freeze_definitions accepted]
  exact ordered

end Registry

theorem Profile.applyTo_defaultsOrdered {profile : Profile} {registry result : Registry}
    {policies table : PolicyTable} (ordered : registry.DefaultsOrdered)
    (itsOrdered : profile.DefaultsOrdered)
    (applied : profile.applyTo registry policies = .ok (result, table)) :
    result.DefaultsOrdered := by
  obtain ⟨extended, directives, placed⟩ := applyTo_steps applied
  have itsResult : extended.DefaultsOrdered :=
    Registry.applyAll_invariant ordered
      (fun directive member _ _ before =>
        Registry.applyOne_defaultsOrdered before (itsOrdered directive member))
      (Registry.apply_ok_iff.mp directives).2
  rcases placed with rfl | ⟨placement, placed⟩
  · exact itsResult
  · obtain ⟨_, rfl⟩ := Registry.setPlacement_ok_iff.mp placed
    exact itsResult

/-- Profiles whose defaults are ordered activate a schema whose defaults are. -/
theorem Profile.activate_defaultsOrdered {profiles : List Profile} {activation : Activation}
    (activated : activate profiles = .ok activation)
    (ordered : ∀ profile ∈ profiles, profile.DefaultsOrdered) :
    activation.registry.DefaultsOrdered := by
  obtain ⟨base, extended, registered, applied, accepted⟩ := activate_steps activated
  have plain : ∀ definition ∈ Vocabulary.definitions,
      ∀ value ∈ definition.defaults.filterMap Field.default, value.parts.isEmpty = true := by
    decide
  have start : base.DefaultsOrdered :=
    Registry.register_defaultsOrdered registered fun definition member =>
      Definition.defaultsOrdered_of_plain (plain definition member)
  have result : extended.DefaultsOrdered :=
    applyAll_invariant start
      (fun profile member _ _ _ _ before => applyTo_defaultsOrdered before (ordered profile member))
      applied
  exact Registry.freeze_defaultsOrdered result accepted

/-! ## Configurations -/

theorem Profile.builtin?_defaultsOrdered {name : String} {profile : Profile}
    (found : builtin? name = some profile) : profile.DefaultsOrdered := by
  have plain : ∀ profile ∈ builtins, ∀ directive ∈ profile.directives,
      ∀ definition ∈ directive.definitions,
        ∀ value ∈ definition.defaults.filterMap Field.default, value.parts.isEmpty = true := by
    decide
  intro directive member definition isDefinition
  exact Definition.defaultsOrdered_of_plain
    (plain profile (List.mem_of_find?_eq_some found) directive member definition isDefinition)

namespace Config

/-- Whatever is among the values of a list was read from one of its items. -/
theorem exists_of_mem_mapM {α β ε : Type} {read : α → Except ε β} {items : List α}
    {values : List β} (all : items.mapM read = .ok values) {value : β} (member : value ∈ values) :
    ∃ item ∈ items, read item = .ok value := by
  induction items generalizing values with
  | nil =>
      cases all
      contradiction
  | cons item rest ih =>
      rw [List.mapM_cons] at all
      cases first : read item with
      | error cause =>
          rw [first] at all
          cases all
      | ok head =>
          cases later : rest.mapM read with
          | error cause =>
              rw [first, later] at all
              cases all
          | ok others =>
              rw [first, later] at all
              cases all
              rcases List.mem_cons.mp member with rfl | other
              · exact ⟨item, List.mem_cons_self, first⟩
              · have ⟨earlier, isItem, same⟩ := ih later other
                exact ⟨earlier, List.mem_cons_of_mem item isItem, same⟩

theorem loadProfiles_defaultsOrdered {files : Files} {paths : List String}
    {profiles : List Profile} (loaded : loadProfiles files paths = .ok profiles) :
    ∀ profile ∈ profiles, profile.DefaultsOrdered := by
  intro profile member
  obtain ⟨path, _, fromFile⟩ := exists_of_mem_mapM loaded member
  exact Files.profile_defaultsOrdered fromFile

theorem profiles_defaultsOrdered {files : Files} {config : Config} {profiles : List Profile}
    (loaded : config.profiles files = .ok profiles) :
    ∀ profile ∈ profiles, profile.DefaultsOrdered := by
  unfold Config.profiles at loaded
  split at loaded
  · exact loadProfiles_defaultsOrdered loaded
  · split at loaded
    · cases loaded
    · next builtin found =>
        split at loaded
        · cases loaded
        · next others later =>
            cases loaded
            exact List.forall_mem_cons.mpr
              ⟨Profile.builtin?_defaultsOrdered found, loadProfiles_defaultsOrdered later⟩

/-- The defaults of the schema of a configuration are ordered, whatever its profile files say. -/
theorem activate_defaultsOrdered {files : Files} {config : Config} {activation : Activation}
    (activated : config.activate files = .ok activation) :
    activation.registry.DefaultsOrdered := by
  unfold activate at activated
  split at activated
  · cases activated
  · next profiles loaded =>
      split at activated
      · cases activated
      · next inner isInner =>
          cases activated
          have ordered := profiles_defaultsOrdered loaded
          exact @Profile.activate_defaultsOrdered profiles inner isInner ordered

end Config

end Blueprint
