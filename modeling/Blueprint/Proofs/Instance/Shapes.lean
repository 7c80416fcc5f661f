import Blueprint.Proofs.Instance.Building

/-!
# What building reads of a schema

Building a document looks at the names and shapes of definitions and at nothing else of them.  Two
registries whose definitions differ in their rules alone therefore build the same instance of every
document, or refuse it with the same error (`Instance.build_congr`).
-/

namespace Blueprint

/-- A definition without its rules. -/
def Definition.bare (definition : Definition) : Definition :=
  { definition with validators := [] }

theorem Definition.bare_eq_iff {first second : Definition} :
    first.bare = second.bare ↔ first.name = second.name ∧ first.kind = second.kind := by
  simp [bare]

/-- The definitions of a registry without their rules. -/
def Registry.bare (registry : Registry) : Dict Definition :=
  registry.definitions.mapValues fun _ => Definition.bare

theorem Registry.get?_bare (registry : Registry) (name : String) :
    registry.bare.get? name = (registry.definition? name).map Definition.bare :=
  Dict.get?_mapValues _ registry.definitions name

namespace Build

/-- Builders that make the same of definitions which differ in their rules alone. -/
def Alike (left right : Builder) : Prop :=
  ∀ first second : Definition, first.bare = second.bare → ∀ name path,
    left first name path = right second name path

theorem partsOf_get? (registry : Registry) (substitute : Tree → Builder) (raw : Tree)
    (key : String) :
    (partsOf registry substitute raw).get? key =
      (raw.get? key).map (builder registry substitute) := by
  cases raw with
  | mapping entries => exact Entries.get?_mapValues _ entries key
  | _ => rfl

/-- A field that is given is built from the part of the tree, others from their default. -/
theorem fieldBuilder?_eq (registry : Registry) (substitute : Tree → Builder) (raw : Tree)
    (key : String) (field : Field) :
    fieldBuilder? substitute raw (partsOf registry substitute raw) key field =
      match raw.get? key with
      | none | some .null => field.default.map substitute
      | some value => some (builder registry substitute value) := by
  rw [fieldBuilder?, partsOf_get?]
  cases raw.get? key with
  | none => rfl
  | some value => cases value <;> rfl

/-! ## Parts -/

theorem buildItems_congr {left right : Tree → Builder} {first second : Definition}
    (items : List Tree)
    (same : ∀ item ∈ items, ∀ name path, left item first name path = right item second name path)
    (path : Path) (index : Nat) :
    buildItems first path index (items.map left) =
      buildItems second path index (items.map right) := by
  induction items generalizing index with
  | nil => rfl
  | cons item rest ih =>
      obtain ⟨here, later⟩ := List.forall_mem_cons.mp same
      simp only [List.map_cons, buildItems, here, ih later]

theorem buildEntries_congr {left right : Tree → Builder} {first second : Definition}
    (entries : Entries Tree)
    (same : ∀ value ∈ entries.values, ∀ name path,
      left value first name path = right value second name path) (path : Path) :
    buildEntries first path (entries.mapValues fun _ => left) =
      buildEntries second path (entries.mapValues fun _ => right) := by
  induction entries with
  | nil => rfl
  | cons entry rest ih =>
      rw [Entries.values, List.map_cons, List.forall_mem_cons] at same
      obtain ⟨here, later⟩ := same
      have unfolded (change : Tree → Builder) :
          Entries.mapValues (fun _ => change) (entry :: rest) =
            (entry.1, change entry.2) :: Entries.mapValues (fun _ => change) rest := rfl
      simp only [unfolded, buildEntries, here, ih later]

/-- What becomes of a field that is built in a certain way, or not at all. -/
def fieldOutcome (registry : Registry) (path : Path) (key : String) (field : Field) :
    Option Builder → Option (Except StructuralError Instance)
  | none => none
  | some builder =>
      match lookUp registry field.definition (path.child key) with
      | .error cause => some (.error cause)
      | .ok definition => some (builder definition key (path.child key))

theorem buildFields_cons (registry : Registry) (substitute : Tree → Builder) (raw : Tree)
    (parts : Parts) (path : Path) (key : String) (field : Field) (rest : List (String × Field)) :
    buildFields registry substitute raw parts path ((key, field) :: rest) =
      match fieldOutcome registry path key field (fieldBuilder? substitute raw parts key field) with
      | none =>
          if field.required then .error (.missingField path key)
          else buildFields registry substitute raw parts path rest
      | some (.error cause) => .error cause
      | some (.ok node) =>
          match buildFields registry substitute raw parts path rest with
          | .error cause => .error cause
          | .ok nodes => .ok ((key, node) :: nodes) := by
  rw [buildFields]
  cases fieldBuilder? substitute raw parts key field with
  | none => rfl
  | some builder =>
      unfold fieldOutcome
      dsimp only
      cases lookUp registry field.definition (path.child key) with
      | error cause => rfl
      | ok definition =>
          dsimp only
          cases builder definition key (path.child key) <;> rfl

theorem buildFields_congr {registry other : Registry} {substitute itsSubstitute : Tree → Builder}
    {raw : Tree} {parts itsParts : Parts} {path : Path} (fields : List (String × Field))
    (same : ∀ entry ∈ fields,
      fieldOutcome registry path entry.1 entry.2 (fieldBuilder? substitute raw parts entry.1 entry.2) =
        fieldOutcome other path entry.1 entry.2
          (fieldBuilder? itsSubstitute raw itsParts entry.1 entry.2)) :
    buildFields registry substitute raw parts path fields =
      buildFields other itsSubstitute raw itsParts path fields := by
  induction fields with
  | nil => rfl
  | cons entry rest ih =>
      obtain ⟨key, field⟩ := entry
      obtain ⟨here, later⟩ := List.forall_mem_cons.mp same
      rw [buildFields_cons, buildFields_cons, here, ih later]

/-- A field has builders that are alike, or none on both sides. -/
theorem fieldBuilder?_alike {registry other : Registry} {substitute itsSubstitute : Tree → Builder}
    (substitutes : ∀ tree, Alike (substitute tree) (itsSubstitute tree)) {raw : Tree}
    (parts : ∀ part ∈ raw.parts,
      Alike (builder registry substitute part) (builder other itsSubstitute part))
    (key : String) (field : Field) :
    (fieldBuilder? substitute raw (partsOf registry substitute raw) key field = none ∧
      fieldBuilder? itsSubstitute raw (partsOf other itsSubstitute raw) key field = none) ∨
    ∃ left right, Alike left right ∧
      fieldBuilder? substitute raw (partsOf registry substitute raw) key field = some left ∧
      fieldBuilder? itsSubstitute raw (partsOf other itsSubstitute raw) key field = some right := by
  have defaults : (field.default.map substitute = none ∧ field.default.map itsSubstitute = none) ∨
      ∃ left right, Alike left right ∧ field.default.map substitute = some left ∧
        field.default.map itsSubstitute = some right := by
    cases field.default with
    | none => exact .inl ⟨rfl, rfl⟩
    | some value => exact .inr ⟨_, _, substitutes value, rfl, rfl⟩
  rw [fieldBuilder?_eq, fieldBuilder?_eq]
  cases given : raw.get? key with
  | none => exact defaults
  | some value =>
      have alike := parts value (Tree.mem_parts_of_get? given)
      cases value with
      | null => exact defaults
      | _ => exact .inr ⟨_, _, alike, rfl, rfl⟩

/-! ## Nodes -/

section

variable {registry other : Registry} (same : registry.bare = other.bare)

include same

/-- A name has definitions that differ in their rules alone, or none on both sides. -/
theorem lookUp_cases (name : String) (path : Path) :
    (lookUp registry name path = .error (.unknownDefinition path name) ∧
      lookUp other name path = .error (.unknownDefinition path name)) ∨
    ∃ first second, first.bare = second.bare ∧ lookUp registry name path = .ok first ∧
      lookUp other name path = .ok second := by
  have found : (registry.definition? name).map Definition.bare =
      (other.definition? name).map Definition.bare := by
    rw [← Registry.get?_bare, ← Registry.get?_bare, same]
  unfold lookUp
  cases isFirst : registry.definition? name with
  | none =>
      rw [isFirst, Option.map_none, eq_comm, Option.map_eq_none_iff] at found
      rw [found]
      exact .inl ⟨rfl, rfl⟩
  | some first =>
      rw [isFirst, Option.map_some, eq_comm, Option.map_eq_some_iff] at found
      obtain ⟨second, isSecond, alike⟩ := found
      rw [isSecond]
      exact .inr ⟨first, second, alike.symm, rfl, rfl⟩

theorem countDefaults_congr :
    countDefaults registry.definitions.values = countDefaults other.definitions.values := by
  have bare (registry : Registry) : countDefaults registry.definitions.values =
      countDefaults registry.bare.values := by
    unfold countDefaults Registry.bare Dict.mapValues Dict.values Entries.mapValues Entries.values
    simp only [List.flatMap_map, List.map_map]
    rfl
  rw [bare registry, bare other, same]

variable {substitute itsSubstitute : Tree → Builder}
  (substitutes : ∀ tree, Alike (substitute tree) (itsSubstitute tree))

include substitutes

theorem fieldOutcome_alike {raw : Tree}
    (parts : ∀ part ∈ raw.parts,
      Alike (builder registry substitute part) (builder other itsSubstitute part))
    (path : Path) (key : String) (field : Field) :
    fieldOutcome registry path key field
        (fieldBuilder? substitute raw (partsOf registry substitute raw) key field) =
      fieldOutcome other path key field
        (fieldBuilder? itsSubstitute raw (partsOf other itsSubstitute raw) key field) := by
  rcases fieldBuilder?_alike substitutes parts key field with
    ⟨absent, itsAbsent⟩ | ⟨left, right, alike, isLeft, isRight⟩
  · rw [absent, itsAbsent]
    rfl
  · rw [isLeft, isRight]
    rcases lookUp_cases same field.definition (path.child key) with
      ⟨unknown, itsUnknown⟩ | ⟨first, second, bare, known, itsKnown⟩
    · simp only [fieldOutcome, unknown, itsUnknown]
    · simp only [fieldOutcome, known, itsKnown, alike first second bare]

theorem buildNode_alike {raw : Tree}
    (parts : ∀ part ∈ raw.parts,
      Alike (builder registry substitute part) (builder other itsSubstitute part)) :
    Alike (buildNode registry substitute raw (partsOf registry substitute raw))
      (buildNode other itsSubstitute raw (partsOf other itsSubstitute raw)) := by
  intro first second bare name path
  obtain ⟨sameName, sameKind⟩ := Definition.bare_eq_iff.mp bare
  unfold buildNode
  simp only [sameName, sameKind]
  cases second.kind with
  | leaf type => rfl
  | composite fields =>
      have fieldsSame := buildFields_congr fields.entries fun entry _ =>
        fieldOutcome_alike same substitutes parts path entry.1 entry.2
      simp only [fieldsSame]
  | list item =>
      rcases lookUp_cases same item path with
        ⟨unknown, itsUnknown⟩ | ⟨left, right, alike, known, itsKnown⟩
      · simp only [unknown, itsUnknown]
      · simp only [known, itsKnown]
        cases raw with
        | sequence items =>
            have itemsSame := buildItems_congr items fun item member =>
              parts item member left right alike
            simp only [partsOf, itemsSame]
        | _ => rfl
  | map item =>
      rcases lookUp_cases same item path with
        ⟨unknown, itsUnknown⟩ | ⟨left, right, alike, known, itsKnown⟩
      · simp only [unknown, itsUnknown]
      · simp only [known, itsKnown]
        cases raw with
        | mapping entries =>
            have entriesSame := buildEntries_congr entries fun value member =>
              parts value member left right alike
            simp only [partsOf, entriesSame]
        | _ => rfl

theorem builder_alike (raw : Tree) :
    Alike (builder registry substitute raw) (builder other itsSubstitute raw) := by
  induction raw using Tree.induction with
  | step raw ih =>
      rw [builder_eq, builder_eq]
      exact buildNode_alike same substitutes ih

omit substitutes in
theorem builderWithin_alike (defaults : Nat) (raw : Tree) :
    Alike (builderWithin registry defaults raw) (builderWithin other defaults raw) := by
  induction defaults generalizing raw with
  | zero =>
      apply builder_alike same
      intro tree first second bare name path
      simp only [(Definition.bare_eq_iff.mp bare).1]
  | succ defaults ih => exact builder_alike same ih raw

end

end Build

/-- Registries that differ in rules alone build the same of every document. -/
theorem Instance.build_congr {registry other : Registry} (same : registry.bare = other.bare)
    (definition : String) (raw : Tree) :
    Instance.build registry definition raw = Instance.build other definition raw := by
  unfold build
  rw [Build.countDefaults_congr same]
  rcases Build.lookUp_cases same definition Path.root with
    ⟨unknown, itsUnknown⟩ | ⟨first, second, bare, known, itsKnown⟩
  · rw [unknown, itsUnknown]
  · simp only [known, itsKnown]
    exact Build.builderWithin_alike same _ raw first second bare "" Path.root

end Blueprint
