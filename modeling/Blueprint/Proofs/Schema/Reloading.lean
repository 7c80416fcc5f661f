import Blueprint.Files.Loading
import Blueprint.Proofs.Schema.Extension
import Blueprint.Proofs.Schema.Records

/-!
# Profiles that are written and read again

The written form of a profile leaves out empty lists, absent options and false flags, tags its
variants by name and spreads the shape of a definition over the parts of the definition.  All of it
is read back (`Profile.ofTree?_toTree`), except that a field whose default is null is written with a
null default, and a null default is read as none (`Field.reread`).

So exactly the profiles without null defaults are read as they were (`Profile.reloads`).  A required
field that is null by default may be left out of a document, but not any more once the profile was
read again (`Profile.reload_titles`).

The written form is a tree.  A file gives the profile back if its text is read as this tree, which
is up to the format: the JSON text of a float need not be read as the same float.
-/

namespace Blueprint

/-! ## Names of variants -/

@[simp]
theorem LeafType.ofTree?_toTree (type : LeafType) : ofTree? type.toTree = some type := by
  cases type <;> rfl

@[simp]
theorem Policy.ofTree?_toTree (policy : Policy) : ofTree? policy.toTree = some policy := by
  cases policy <;> rfl

/-! ## Validators -/

namespace Validator

/-- The validator is not a check of the host. -/
def IsData (validator : Validator) : Prop :=
  ∀ check, validator ≠ .custom check

theorem isData_iff {validator : Validator} :
    validator.IsData ↔ validator.code?.isSome = true := by
  cases validator <;> simp [IsData, code?]

instance (validator : Validator) : Decidable validator.IsData :=
  decidable_of_iff _ isData_iff.symm

theorem ofTree?_toTree {validator : Validator} (isData : validator.IsData) (numbered : Bool) :
    ofTree? numbered validator.toTree = some validator := by
  cases validator with
  | allowedValues values owner code =>
      have isOwner : Form.readPart none (Form.nullable? Tree.text?) (owner.map .string) =
          some owner :=
        Form.readPart_nullable (fun _ => rfl) (fun _ => rfl)
      apply Form.bind_tagged (by simp [variants]) (by simp [Entries.keys])
      intro parts held
      simp [Form.needed?, Form.optional?_eq_readPart, held, Entries.get?_cons, isOwner]
  | pattern source code =>
      apply Form.bind_tagged (by simp [variants]) (by simp [Entries.keys])
      intro parts held
      simp [Form.needed?, Form.optional?_eq_readPart, held, Entries.get?_cons]
  | nonEmpty code =>
      apply Form.bind_tagged (by simp [variants]) (by simp [Entries.keys])
      intro parts held
      simp [Form.optional?_eq_readPart, held, Entries.get?_cons]
  | referenceTo part code =>
      apply Form.bind_tagged (by simp [variants]) (by simp [Entries.keys])
      intro parts held
      simp [Form.needed?, Form.optional?_eq_readPart, held, Entries.get?_cons]
  | custom check => exact absurd rfl (isData check)

end Validator

/-! ## Definitions -/

namespace Field

/-- The field as it is read from its written form: with no default in place of null. -/
def reread (field : Field) : Field :=
  { field with default := field.default.filter fun value => !value.isNull }

theorem readPart_default (default : Option Tree) :
    Form.readPart none (Form.nullable? some) default =
      some (default.filter fun value => !value.isNull) := by
  obtain _ | tree := default
  · rfl
  · cases tree <;> rfl

@[simp]
theorem ofTree?_toTree (field : Field) : ofTree? field.toTree = some field.reread := by
  have required : Form.readPart false Form.flag? (Form.given field.required (.bool true)) =
      some field.required :=
    Form.readPart_given (fun isRequired => by simp [isRequired]) id
  rw [toTree, ofTree?]
  apply Form.bind_parts (by simp [Entries.keys])
  intro parts held
  simp [Form.needed?, Form.optional?_eq_readPart, held, Entries.get?_cons, required,
    readPart_default, reread]

theorem reread_eq_iff {field : Field} : field.reread = field ↔ field.default ≠ some .null := by
  obtain ⟨definition, required, default⟩ := field
  obtain _ | tree := default
  · simp [reread]
  · cases tree <;> simp [reread, Tree.isNull]

end Field

namespace Kind

/-- The shape as it is read from its written form. -/
def reread : Kind → Kind
  | .composite fields => .composite (fields.mapValues fun _ => Field.reread)
  | other => other

end Kind

namespace Definition

/-- The definition as it is read from its written form. -/
def reread (definition : Definition) : Definition :=
  { definition with kind := definition.kind.reread }

/-- The parts in which a definition is written. -/
def parts (definition : Definition) : List (String × Option Tree) :=
  ("name", some (.string definition.name)) ::
  ("validators", Form.given (!definition.validators.isEmpty)
    (.sequence (definition.validators.map Validator.toTree))) ::
  definition.kind.parts

theorem nodup_keys_parts (definition : Definition) : (Entries.keys definition.parts).Nodup := by
  obtain ⟨name, kind, validators⟩ := definition
  cases kind <;> simp [parts, Kind.parts, Entries.keys]

theorem ofTree?_toTree {definition : Definition}
    (isData : ∀ validator ∈ definition.validators, validator.IsData) (numbered : Bool) :
    ofTree? numbered definition.toTree = some definition.reread := by
  have rules : Form.readPart [] (Form.list? (Validator.ofTree? numbered))
      (Form.given (!definition.validators.isEmpty)
        (.sequence (definition.validators.map Validator.toTree))) =
          some definition.validators := by
    apply Form.readPart_list
    apply Form.list?_map_self
    exact fun validator member => Validator.ofTree?_toTree (isData validator member) numbered
  have fields := Form.dict?_mapValues Field.ofTree?_toTree
  obtain ⟨entries, isMapping, held⟩ := Form.exists_record definition.nodup_keys_parts
  have isMapping : definition.toTree = .mapping entries := isMapping
  obtain ⟨name, kind, validators⟩ := definition
  rw [isMapping, ofTree?]
  cases kind <;>
    simp [Kind.ofParts?, Form.needed?, Form.optional?_eq_readPart, held, Entries.get?_cons, parts,
      Kind.parts, Form.variant?, Kind.variants, rules, fields, reread, Kind.reread]

/-- A definition is read again as it was unless a field has a null default. -/
theorem reread_eq_iff {definition : Definition} :
    definition.reread = definition ↔
      ∀ field ∈ definition.defaults, field.default ≠ some .null := by
  obtain ⟨name, kind, validators⟩ := definition
  cases kind with
  | composite fields =>
      have kept : (Definition.mk name (.composite fields) validators).reread =
            ⟨name, .composite fields, validators⟩ ↔
          (fields.mapValues fun _ => Field.reread) = fields := by
        simp [reread, Kind.reread]
      rw [kept, Dict.mapValues_eq_self_iff]
      simp only [Field.reread_eq_iff, defaults, Definition.fields?, Kind.fields?, List.mem_filter]
      constructor
      · exact fun proper field member => proper field member.1
      · intro proper field member isNull
        exact proper field ⟨member, by rw [isNull]; rfl⟩ isNull
  | leaf => simp [reread, Kind.reread, defaults, Definition.fields?, Kind.fields?]
  | list => simp [reread, Kind.reread, defaults, Definition.fields?, Kind.fields?]
  | map => simp [reread, Kind.reread, defaults, Definition.fields?, Kind.fields?]

end Definition

/-! ## Directives -/

namespace Directive

/-- The validators that a directive brings. -/
def validators : Directive → List Validator
  | .addBehavior _ validators => validators
  | other => other.definitions.flatMap Definition.validators

/-- The directive as it is read from its written form. -/
def reread : Directive → Directive
  | .replace target definition supporting =>
      .replace target definition.reread (supporting.map Definition.reread)
  | .addToSchema target key definition required supporting =>
      .addToSchema target key definition.reread required (supporting.map Definition.reread)
  | other => other

theorem ofTree?_toTree {directive : Directive}
    (isData : ∀ validator ∈ directive.validators, validator.IsData) :
    ofTree? directive.toTree = some directive.reread := by
  -- Definitions of a directive are data as well.
  have definitions : ∀ definition ∈ directive.definitions,
      Definition.ofTree? true definition.toTree = some definition.reread := by
    intro definition member
    apply Definition.ofTree?_toTree
    intro validator its
    apply isData
    cases directive with
    | addBehavior => contradiction
    | _ => exact List.mem_flatMap.mpr ⟨definition, member, its⟩
  cases directive with
  | replace target definition supporting =>
      obtain ⟨main, others⟩ := List.forall_mem_cons.mp definitions
      have others := Form.readPart_list (Form.list?_map others)
      rw [toTree, ofTree?]
      apply Form.bind_tagged (by simp [variants]) (by simp [Entries.keys])
      intro parts held
      simp [Form.needed?, Form.optional?_eq_readPart, held, Entries.get?_cons, supportingTree, main,
        others, reread]
  | addToSchema target key definition required supporting =>
      obtain ⟨main, others⟩ := List.forall_mem_cons.mp definitions
      have others := Form.readPart_list (Form.list?_map others)
      rw [toTree, ofTree?]
      apply Form.bind_tagged (by simp [variants]) (by simp [Entries.keys])
      intro parts held
      simp [Form.needed?, Form.optional?_eq_readPart, held, Entries.get?_cons, supportingTree, main,
        others, reread]
  | addBehavior target validators =>
      have rules : Form.list? (Validator.ofTree? true)
          (.sequence (validators.map Validator.toTree)) = some validators :=
        Form.list?_map_self fun validator member =>
          Validator.ofTree?_toTree (isData validator member) true
      rw [toTree, ofTree?]
      apply Form.bind_tagged (by simp [variants]) (by simp [Entries.keys])
      intro parts held
      simp [Form.needed?, held, Entries.get?_cons, rules, reread]

theorem reread_eq_iff {directive : Directive} :
    directive.reread = directive ↔
      ∀ definition ∈ directive.definitions, definition.reread = definition := by
  cases directive with
  | replace target definition supporting => simp [reread, definitions, map_eq_self_iff]
  | addToSchema target key definition required supporting =>
      simp [reread, definitions, map_eq_self_iff]
  | addBehavior => simp [reread, definitions]

end Directive

theorem HostPlacement.ofTree?_toTree (placement : HostPlacement) :
    ofTree? placement.toTree = some placement := by
  rw [toTree, ofTree?]
  apply Form.bind_parts (by simp [Entries.keys])
  intro parts held
  simp [Form.needed?, held, Entries.get?_cons]

/-! ## Profiles -/

theorem Files.profile_of_load {files : Files} {path : String} {tree : Tree} {profile : Profile}
    (loaded : files.load path = .ok tree) (reads : Profile.ofTree? tree = some profile) :
    files.profile path = .ok profile := by
  unfold Files.profile
  rw [loaded]
  dsimp only
  rw [reads]

namespace Profile

/-- The definitions that a profile brings. -/
def definitions (profile : Profile) : List Definition :=
  profile.directives.flatMap Directive.definitions

/-- The validators that a profile brings. -/
def validators (profile : Profile) : List Validator :=
  profile.directives.flatMap Directive.validators

/-- The profile has no check of the host. -/
def IsData (profile : Profile) : Prop :=
  ∀ validator ∈ profile.validators, validator.IsData

instance (profile : Profile) : Decidable profile.IsData :=
  inferInstanceAs (Decidable (∀ validator ∈ profile.validators, validator.IsData))

/-- Some field of the profile has null for its default. -/
def HasNullDefault (profile : Profile) : Prop :=
  ∃ definition ∈ profile.definitions, ∃ field ∈ definition.defaults, field.default = some .null

/-- The profile as it is read from its written form. -/
def reread (profile : Profile) : Profile :=
  { profile with directives := profile.directives.map Directive.reread }

theorem ofTree?_toTree {profile : Profile} (isData : profile.IsData) :
    ofTree? profile.toTree = some profile.reread := by
  have description : Form.readPart "" Tree.text?
      (Form.given (!profile.description.isEmpty) (.string profile.description)) =
        some profile.description := by
    refine Form.readPart_given (fun _ => Form.text?_string profile.description) fun isEmpty => ?_
    simpa using isEmpty
  have directives : Form.readPart [] (Form.list? Directive.ofTree?)
      (Form.given (!profile.directives.isEmpty)
        (.sequence (profile.directives.map Directive.toTree))) =
          some (profile.directives.map Directive.reread) := by
    apply Form.readPart_list
    apply Form.list?_map
    intro directive member
    apply Directive.ofTree?_toTree
    exact fun validator its => isData validator (List.mem_flatMap.mpr ⟨directive, member, its⟩)
  have policies : Form.readPart ∅ (Form.dict? Policy.ofTree?)
      (Form.given (!profile.mergePolicies.isEmpty)
        (.mapping (profile.mergePolicies.mapValues fun _ policy => policy.toTree).entries)) =
          some profile.mergePolicies := by
    have reads := Form.dict?_mapValues Policy.ofTree?_toTree profile.mergePolicies
    rw [Dict.mapValues_id] at reads
    refine Form.readPart_given (fun _ => reads) fun isEmpty => Dict.ext ?_
    have none : profile.mergePolicies.entries = [] := by simpa [Dict.isEmpty] using isEmpty
    exact none
  have placement : Form.readPart none (Form.nullable? HostPlacement.ofTree?)
      (profile.placement.map HostPlacement.toTree) = some profile.placement :=
    Form.readPart_nullable (fun _ => rfl) HostPlacement.ofTree?_toTree
  rw [toTree, ofTree?]
  apply Form.bind_parts (by simp [Entries.keys])
  intro parts held
  simp [Form.needed?, Form.optional?_eq_readPart, held, Entries.get?_cons, description, directives,
    policies, placement, reread]

theorem reread_eq_iff {profile : Profile} :
    profile.reread = profile ↔ ¬ profile.HasNullDefault := by
  have kept : profile.reread = profile ↔
      profile.directives.map Directive.reread = profile.directives := by
    constructor
    · exact congrArg Profile.directives
    · intro same
      rw [reread, same]
  rw [kept, map_eq_self_iff]
  simp only [Directive.reread_eq_iff, Definition.reread_eq_iff]
  constructor
  · rintro proper ⟨definition, its, field, member, isNull⟩
    obtain ⟨directive, isDirective, its⟩ := List.mem_flatMap.mp its
    exact proper directive isDirective definition its field member isNull
  · intro proper directive isDirective definition its field member isNull
    exact proper ⟨definition, List.mem_flatMap.mpr ⟨directive, isDirective, its⟩, field, member,
      isNull⟩

/-- What a document is built to once a registry was extended by a profile and frozen. -/
def structural (profile : Profile) (registry : Registry) (policies : PolicyTable) (raw : Tree) :
    Except ExtensionError (Except StructuralError Instance) :=
  match profile.applyTo registry policies with
  | .error cause => .error cause
  | .ok (extended, _) =>
      match extended.freeze with
      | .error cause => .error cause
      | .ok frozen => .ok (frozen.structural raw)

/-- The written form of a profile without checks of the host is a tree that is read again, also from
any file whose text is read as this tree.  That is asked of the file: the float `1e-25` comes back
from its JSON text as another float, so a profile with such a default may not come back from a file.
What is read is the same profile exactly if no default is null, and then documents are built the same
with it. -/
theorem reloads {profile : Profile} (isData : profile.IsData) :
    ∃ reloaded, ofTree? profile.toTree = some reloaded ∧
      (∀ (files : Files) path, files.load path = .ok profile.toTree →
        files.profile path = .ok reloaded) ∧
      (reloaded = profile ↔ ¬ profile.HasNullDefault) ∧
      (¬ profile.HasNullDefault → ∀ registry policies raw,
        reloaded.structural registry policies raw = profile.structural registry policies raw) := by
  have reads := ofTree?_toTree isData
  refine ⟨profile.reread, reads, ?_, reread_eq_iff, ?_⟩
  · exact fun files path loaded => Files.profile_of_load loaded reads
  · intro proper registry policies raw
    rw [reread_eq_iff.mpr proper]

/-- Rooms with pictures: a definition of each shape, each rule with a text or a code of its own, and
defaults of which one is the negative zero and one has nulls within. -/
def gallery : Profile where
  name := "gallery"
  description := "pictures in rooms"
  directives :=
    [.replace "site" ⟨"site", .composite (.ofList
        [("rooms", ⟨"rooms", true, none⟩),
         ("scale", ⟨"scale", false, some (.number (.float (.zero true)))⟩),
         ("tags", ⟨"tags", true, some (.sequence [.null, .mapping [("", .null)]])⟩)]), [.filled]⟩
       [.map "rooms" "room", ⟨"room", .leaf .string, [.matching "^r", .namesEntryOf "rooms"]⟩,
        .leaf "scale" .number, .list "tags" "tag", .leaf "tag" .any],
     .addToSchema "site" "light" ⟨"light", .leaf .string,
       [.allowedValues ["on", "off"] (some "site") 4294967295]⟩ true [],
     .addBehavior "tags" [.filled]]
  mergePolicies := .ofList [("rooms", .mergeNoOverride), ("tags", .mergeUnion)]
  placement := some ⟨"host", "contained_in", "host_agent"⟩

/-- The gallery is read as it was written. -/
theorem ofTree?_gallery : gallery.IsData ∧ ¬ gallery.HasNullDefault ∧
    ofTree? gallery.toTree = some gallery := by
  have isData : gallery.IsData := by decide
  have proper : ¬ gallery.HasNullDefault := by
    rintro ⟨definition, its, field, member, isNull⟩
    have known : ∀ definition ∈ gallery.definitions, ∀ field ∈ definition.defaults,
        field.default.any Tree.isNull = false := by decide
    have notNull := known definition its field member
    rw [isNull] at notNull
    contradiction
  obtain ⟨reloaded, reads, _, same, _⟩ := reloads isData
  rw [same.mpr proper] at reads
  exact ⟨isData, proper, reads⟩

/-- A page with a title that is null if it is not given. -/
def titles : Profile :=
  (Profile.empty "titles").withDirective
    (.replace "page"
      ((Definition.composite "page").withField "title" ((Field.needed "title").withDefault .null))
      [Definition.leaf "title" .any])

/-- Pages without a title are accepted with the profile, and no longer once it was read again. -/
theorem reload_titles :
    ∃ registry reloaded page,
      Registry.register "page" [.composite "page"] = .ok registry ∧
      titles.IsData ∧ ofTree? titles.toTree = some reloaded ∧ reloaded ≠ titles ∧
      titles.structural registry .empty (.mapping []) = .ok (.ok page) ∧
      reloaded.structural registry .empty (.mapping []) =
        .ok (.error (.missingField .root "title")) := by
  have isData : titles.IsData := by decide
  have changed : titles.reread ≠ titles := fun same =>
    reread_eq_iff.mp same ⟨_, List.mem_cons_self, _, List.mem_cons_self, rfl⟩
  exact ⟨_, titles.reread, _, rfl, isData, ofTree?_toTree isData, changed, rfl, rfl⟩

end Profile

end Blueprint
