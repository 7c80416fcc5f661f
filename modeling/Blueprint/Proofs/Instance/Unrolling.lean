import Blueprint.Proofs.Instance.Fragments
import Blueprint.Proofs.Instance.Shapes

/-!
# Building without a bound

`Instance.build` walks a document with a bound on the nesting of defaults.  On a registry without
circles the bound is not felt: walks agree as soon as each unrolls as many defaults within defaults
as there are (`Build.sameAt_of_unrolls`), and there is exactly one walk that builds defaults as it
builds all else (`Build.exists_unique_solution`).

So a fragment is built in one way wherever it stands (`Fragment.build`), and what is built for it is
built place by place, whatever the kind of its definition is (`Fragment.buildPlaces`).  A fragment is
refused for its own form, or for the first of its places that cannot be built
(`Fragment.refused_of_build_error`).
-/

namespace Blueprint

namespace Build

/-! ## Walks that agree -/

/-- Builders that make the same against the definition of a name. -/
def SameAt (registry : Registry) (target : String) (left right : Builder) : Prop :=
  ∀ definition, registry.definition? target = some definition →
    ∀ name path, left definition name path = right definition name path

theorem fieldOutcome_some_congr {registry : Registry} {field : Field} {left right : Builder}
    (same : SameAt registry field.definition left right) (path : Path) (key : String) :
    fieldOutcome registry path key field (some left) =
      fieldOutcome registry path key field (some right) := by
  unfold fieldOutcome
  dsimp only
  cases found : lookUp registry field.definition (path.child key) with
  | error cause => rfl
  | ok definition =>
      dsimp only
      rw [same definition (lookUp_ok found)]

section

variable {registry : Registry} {substitute other : Tree → Builder} {raw : Tree}
  {definition : Definition}
  (given : ∀ reference ∈ definition.kind.references, ∀ part ∈ raw.parts,
    SameAt registry reference (builder registry substitute part) (builder registry other part))
  (defaults : ∀ field ∈ definition.defaults, ∀ value, field.default = some value →
    SameAt registry field.definition (substitute value) (other value))

include given defaults

theorem fieldOutcome_congr {fields : Dict Field} (kind : definition.kind = .composite fields)
    (path : Path) {key : String} {field : Field} (isField : fields.get? key = some field) :
    fieldOutcome registry path key field
        (fieldBuilder? substitute raw (partsOf registry substitute raw) key field) =
      fieldOutcome registry path key field
        (fieldBuilder? other raw (partsOf registry other raw) key field) := by
  have fromDefault : fieldOutcome registry path key field (field.default.map substitute) =
      fieldOutcome registry path key field (field.default.map other) := by
    cases isDefault : field.default with
    | none => rfl
    | some value =>
        exact fieldOutcome_some_congr
          (defaults field (Definition.mem_defaults kind isField isDefault) value isDefault) path key
  rw [fieldBuilder?_eq, fieldBuilder?_eq]
  cases isGiven : raw.get? key with
  | none => exact fromDefault
  | some value =>
      have refers : field.definition ∈ definition.kind.references := by
        rw [kind]
        exact List.mem_map_of_mem (Dict.mem_values_iff.mpr ⟨key, isField⟩)
      have same := given field.definition refers value (Tree.mem_parts_of_get? isGiven)
      cases value with
      | null => exact fromDefault
      | _ => exact fieldOutcome_some_congr same path key

/-- A tree is built alike if its parts and the defaults that may stand in for them are. -/
theorem builder_congr (name : String) (path : Path) :
    builder registry substitute raw definition name path =
      builder registry other raw definition name path := by
  cases kind : definition.kind with
  | leaf type =>
      rw [builder_leaf _ _ _ _ _ kind, builder_leaf _ _ _ _ _ kind]
  | composite fields =>
      rw [builder_composite _ _ _ _ _ kind, builder_composite _ _ _ _ _ kind,
        buildFields_congr fields.entries fun entry member =>
          fieldOutcome_congr given defaults kind path (Dict.mem_entries_iff.mp member)]
  | list item =>
      have refers : item ∈ definition.kind.references := kind ▸ List.mem_singleton_self item
      rw [builder_list _ _ _ _ _ kind, builder_list _ _ _ _ _ kind]
      cases found : lookUp registry item path with
      | error cause => rfl
      | ok itemDefinition =>
          cases readable : raw.asItems? with
          | none => rfl
          | some items =>
              have itemsSame := buildItems_congr items fun value member =>
                given item refers value (Tree.mem_parts_of_asItems? readable member)
                  itemDefinition (lookUp_ok found)
              simp only [itemsSame]
  | map item =>
      have refers : item ∈ definition.kind.references := kind ▸ List.mem_singleton_self item
      rw [builder_map _ _ _ _ _ kind, builder_map _ _ _ _ _ kind]
      cases found : lookUp registry item path with
      | error cause => rfl
      | ok itemDefinition =>
          cases readable : raw.asEntries? with
          | none => rfl
          | some entries =>
              have entriesSame := buildEntries_congr entries fun value member => by
                rcases List.mem_map.mp member with ⟨entry, isEntry, rfl⟩
                exact given item refers entry.2 (Tree.mem_parts_of_asEntries? readable isEntry)
                  itemDefinition (lookUp_ok found)
              simp only [entriesSame]

end

/-! ## Walks without a bound -/

/-- How defaults are built when they nest so deeply at most. -/
def substitution (registry : Registry) : (levels : Nat) → Tree → Builder
  | 0 => fun _ definition _ path => .error (.endlessDefault path definition.name)
  | levels + 1 => builderWithin registry levels

theorem builderWithin_eq (registry : Registry) (levels : Nat) :
    builderWithin registry levels = builder registry (substitution registry levels) := by
  cases levels <;> rfl

/-- The walk of `Instance.build`. -/
def walk (registry : Registry) : Tree → Builder :=
  builderWithin registry (countDefaults registry.definitions.values)

/-- Defaults are built by the walk itself, down to so many defaults within defaults. -/
def Unrolls (registry : Registry) : (levels : Nat) → (Tree → Builder) → Prop
  | 0, _ => True
  | levels + 1, substitute =>
      ∃ inner, Unrolls registry levels inner ∧ ∀ tree, substitute tree = builder registry inner tree

/-- Defaults are built by the walk itself, however deeply they nest. -/
def Solves (registry : Registry) (solution : Tree → Builder) : Prop :=
  ∀ tree, solution tree = builder registry solution tree

theorem Solves.unrolls {registry : Registry} {solution : Tree → Builder}
    (solves : Solves registry solution) (levels : Nat) : Unrolls registry levels solution := by
  induction levels with
  | zero => trivial
  | succ levels ih => exact ⟨solution, ih, solves⟩

theorem unrolls_substitution (registry : Registry) {fewer levels : Nat} (most : fewer ≤ levels) :
    Unrolls registry fewer (substitution registry levels) := by
  induction fewer generalizing levels with
  | zero => trivial
  | succ fewer ih =>
      cases levels with
      | zero => contradiction
      | succ levels =>
          refine ⟨substitution registry levels, ih (Nat.le_of_succ_le_succ most), ?_⟩
          intro tree
          rw [substitution, builderWithin_eq]

/-- Walks agree that unroll the defaults within reach.  Induction on the levels, for defaults, and
within a level on the tree, for what is given. -/
theorem sameAt_of_unrolls {registry : Registry} (acyclic : registry.Acyclic) (levels : Nat)
    {substitute other : Tree → Builder} (unrolls : Unrolls registry levels substitute)
    (itsUnrolls : Unrolls registry levels other) (raw : Tree) {target : String}
    (enough : registry.Enough levels target) :
    SameAt registry target (builder registry substitute raw) (builder registry other raw) := by
  induction levels using Nat.strongRecOn generalizing substitute other raw target with
  | ind levels earlier =>
      induction raw using Tree.induction generalizing target with
      | step raw parts =>
          intro definition known name path
          apply builder_congr
          · intro reference refers part member
            exact parts part member (enough.of_refers ((Registry.refers_iff known).mpr refers))
          · intro field hasDefault value isDefault
            have declares : registry.defaultsOf target ≠ [] :=
              List.ne_nil_of_mem ((Registry.mem_defaultsOf_iff known).mpr hasDefault)
            have refers := (Registry.refers_iff known).mpr
              (Definition.mem_references_of_mem_defaults hasDefault)
            rcases enough.of_default acyclic refers declares with ⟨fewer, rfl, enoughFewer⟩
            rcases unrolls with ⟨inner, unrollsInner, isInner⟩
            rcases itsUnrolls with ⟨itsInner, itsUnrollsInner, isItsInner⟩
            rw [isInner, isItsInner]
            exact earlier fewer (Nat.lt_succ_self fewer) unrollsInner itsUnrollsInner value
              enoughFewer

section

variable {registry : Registry} (acyclic : registry.Acyclic)

include acyclic

/-- With all defaults unrolled it does not matter how those beyond are built. -/
theorem builder_eq_of_unrolls {substitute other : Tree → Builder}
    (unrolls : Unrolls registry (countDefaults registry.definitions.values + 1) substitute)
    (itsUnrolls : Unrolls registry (countDefaults registry.definitions.values + 1) other)
    (raw : Tree) : builder registry substitute raw = builder registry other raw := by
  have enough := registry.enough_countDefaults
  funext definition name path
  apply builder_congr
  · intro reference _ part _
    exact sameAt_of_unrolls acyclic _ unrolls itsUnrolls part (enough reference).succ
  · intro field _ value _
    rcases unrolls with ⟨inner, unrollsInner, isInner⟩
    rcases itsUnrolls with ⟨itsInner, itsUnrollsInner, isItsInner⟩
    rw [isInner, isItsInner]
    exact sameAt_of_unrolls acyclic _ unrollsInner itsUnrollsInner value (enough field.definition)

/-- The walk without a bound is there, and there is one only. -/
theorem exists_unique_solution : ∃ solution, Solves registry solution ∧
    ∀ other, Solves registry other → other = solution := by
  have more := Nat.le_succ (countDefaults registry.definitions.values + 1)
  refine ⟨builderWithin registry (countDefaults registry.definitions.values + 1), ?_, ?_⟩
  · intro tree
    rw [builderWithin_eq]
    exact builder_eq_of_unrolls acyclic (unrolls_substitution registry (Nat.le_refl _))
      (unrolls_substitution registry more) tree
  · intro other solves
    funext tree
    rw [solves tree, builderWithin_eq]
    exact builder_eq_of_unrolls acyclic (solves.unrolls _)
      (unrolls_substitution registry (Nat.le_refl _)) tree

/-- Against a registered definition all walks agree that unroll as many levels as there are
defaults. -/
theorem walk_eq_of_unrolls {substitute : Tree → Builder}
    (unrolls : Unrolls registry (countDefaults registry.definitions.values) substitute) (raw : Tree)
    {target : String} {definition : Definition}
    (known : registry.definition? target = some definition) (name : String) (path : Path) :
    walk registry raw definition name path =
      builder registry substitute raw definition name path := by
  rw [walk, builderWithin_eq]
  exact sameAt_of_unrolls acyclic _ (unrolls_substitution registry (Nat.le_refl _)) unrolls raw
    (registry.enough_countDefaults target) definition known name path

/-- What is given and what is a default are built alike. -/
theorem walk_eq {target : String} {definition : Definition}
    (known : registry.definition? target = some definition) (raw : Tree) (name : String)
    (path : Path) :
    walk registry raw definition name path =
      builder registry (walk registry) raw definition name path :=
  walk_eq_of_unrolls acyclic (unrolls_substitution registry (Nat.le_succ _)) raw known name path

end

end Build

/-! ## Building place by place -/

/-- What a definition of a kind calls for. -/
def Kind.expected : Kind → Expected
  | .leaf type => .leaf type
  | .list _ => .sequence
  | .composite _ | .map _ => .mapping

/-- A tree is what is called for, where null may stand for an empty sequence or mapping. -/
def Expected.MetBy : Expected → Tree → Prop
  | .leaf type, tree => type.accepts tree = true
  | .sequence, tree => tree.asItems? ≠ none
  | .mapping, tree => tree.asEntries? ≠ none

namespace Fragment

/-- Build a fragment, given its name in the parent and its path. -/
def build (registry : Registry) (fragment : Fragment) (name : String) (path : Path) :
    Except StructuralError Instance :=
  match Build.lookUp registry fragment.target path with
  | .error cause => .error cause
  | .ok definition => Build.walk registry fragment.tree definition name path

/-- Build what stands at some places, one after the other. -/
def buildPlaces (registry : Registry) (path : Path) :
    Entries (Option Fragment) → Except StructuralError (Entries Instance)
  | [] => .ok []
  | (step, none) :: _ => .error (.missingField path step)
  | (step, some part) :: rest =>
      match part.build registry step (path.child step) with
      | .error cause => .error cause
      | .ok node =>
          match buildPlaces registry path rest with
          | .error cause => .error cause
          | .ok nodes => .ok ((step, node) :: nodes)

/-- Building fails at the first place that cannot be built. -/
theorem buildPlaces_error {registry : Registry} {path : Path} {places : Entries (Option Fragment)}
    {cause : StructuralError} (failed : buildPlaces registry path places = .error cause) :
    ∃ before step place after, places = before ++ (step, place) :: after ∧
      (∀ earlier ∈ before, ∃ part node, earlier.2 = some part ∧
        part.build registry earlier.1 (path.child earlier.1) = .ok node) ∧
      match place with
      | none => cause = .missingField path step
      | some part => part.build registry step (path.child step) = .error cause := by
  induction places with
  | nil => contradiction
  | cons entry rest ih =>
      rcases entry with ⟨step, place⟩
      cases place with
      | none =>
          cases failed
          exact ⟨[], step, none, rest, rfl, List.forall_mem_nil _, rfl⟩
      | some part =>
          rw [buildPlaces] at failed
          cases outcome : part.build registry step (path.child step) with
          | error _ =>
              rw [outcome] at failed
              cases failed
              exact ⟨[], step, some part, rest, rfl, List.forall_mem_nil _, outcome⟩
          | ok node =>
              rw [outcome] at failed
              dsimp only at failed
              split at failed
              · next stopped =>
                  cases failed
                  rcases ih stopped with ⟨before, failing, place, after, rfl, passed, fails⟩
                  refine ⟨(step, some part) :: before, failing, place, after, rfl, ?_, fails⟩
                  exact List.forall_mem_cons.mpr ⟨⟨part, node, rfl, outcome⟩, passed⟩
              · contradiction

section

variable {registry : Registry} (coherent : registry.Coherent)

include coherent

theorem build_eq {fragment : Fragment} {definition : Definition}
    (known : registry.definition? fragment.target = some definition) (name : String) (path : Path) :
    fragment.build registry name path =
      Build.builder registry (Build.walk registry) fragment.tree definition name path := by
  rw [build, Build.lookUp_eq known]
  exact Build.walk_eq coherent.acyclic known fragment.tree name path

/-- What becomes of a field is what becomes of the fragment at its place. -/
theorem fieldOutcome_eq {raw : Tree} {entries : Entries Tree}
    (readable : raw.asEntries? = some entries) (path : Path) (key : String) {field : Field}
    {definition : Definition} (known : registry.definition? field.definition = some definition) :
    Build.fieldOutcome registry path key field
        (Build.fieldBuilder? (Build.walk registry) raw
          (Build.partsOf registry (Build.walk registry) raw) key field) =
      (field.chosen? (Entries.get? entries key)).map fun value =>
        build registry ⟨field.definition, value⟩ key (path.child key) := by
  rcases Build.fieldBuilder?_cases registry (Build.walk registry) readable key field with
    ⟨absent, none⟩ | ⟨value, _, isChosen, isBuilder⟩ | ⟨value, _, isChosen, isBuilder⟩
  · rw [absent, none]
    rfl
  · have same : build registry ⟨field.definition, value⟩ key (path.child key) = _ :=
      build_eq coherent known key (path.child key)
    rw [isChosen, isBuilder, Option.map_some, same, Build.fieldOutcome, Build.lookUp_eq known]
  · rw [isChosen, isBuilder, Option.map_some, build, Build.fieldOutcome, Build.lookUp_eq known]

theorem buildFields_eq {raw : Tree} {entries : Entries Tree}
    (readable : raw.asEntries? = some entries) (path : Path) (fields : List (String × Field))
    (resolved : ∀ entry ∈ fields,
      ∃ definition, registry.definition? entry.2.definition = some definition) :
    Build.buildFields registry (Build.walk registry) raw
        (Build.partsOf registry (Build.walk registry) raw) path fields =
      buildPlaces registry path
        (fields.filterMap fun entry => entry.2.place? entries entry.1) := by
  induction fields with
  | nil => rfl
  | cons entry rest ih =>
      rcases entry with ⟨key, field⟩
      rcases List.forall_mem_cons.mp resolved with ⟨⟨definition, known⟩, later⟩
      rw [Build.buildFields_cons, fieldOutcome_eq coherent readable path key known, ih later,
        List.filterMap_cons, Field.place?]
      cases field.chosen? (Entries.get? entries key) with
      | some value =>
          rw [Option.map_some, buildPlaces]
          cases build registry ⟨field.definition, value⟩ key (path.child key) <;> rfl
      | none => cases field.required <;> rfl

theorem buildItems_eq {item : String} {definition : Definition}
    (known : registry.definition? item = some definition) (path : Path) (items : List Tree)
    (index : Nat) :
    Build.buildItems definition path index
        (items.map (Build.builder registry (Build.walk registry))) =
      (buildPlaces registry path ((items.zipIdx index).map fun (value, index) =>
        (toString index, some ⟨item, value⟩))).map Entries.values := by
  induction items generalizing index with
  | nil => rfl
  | cons value rest ih =>
      have same : build registry ⟨item, value⟩ (toString index) (path.child (toString index)) = _ :=
        build_eq coherent known (toString index) (path.child (toString index))
      rw [List.map_cons, Build.buildItems, ih, List.zipIdx_cons, List.map_cons, buildPlaces, same]
      dsimp only
      cases Build.builder registry (Build.walk registry) value definition (toString index)
          (path.child (toString index)) with
      | error cause => rfl
      | ok node =>
          dsimp only
          cases buildPlaces registry path ((rest.zipIdx (index + 1)).map fun (value, index) =>
            (toString index, some (Fragment.mk item value))) <;> rfl

theorem buildEntries_eq {item : String} {definition : Definition}
    (known : registry.definition? item = some definition) (path : Path) (entries : Entries Tree) :
    Build.buildEntries definition path
        (Entries.mapValues (fun _ => Build.builder registry (Build.walk registry)) entries) =
      buildPlaces registry path (Entries.mapValues (fun _ value => some ⟨item, value⟩) entries) := by
  induction entries with
  | nil => rfl
  | cons entry rest ih =>
      rcases entry with ⟨key, value⟩
      have same : build registry ⟨item, value⟩ key (path.child key) = _ :=
        build_eq coherent known key (path.child key)
      unfold Entries.mapValues at ih ⊢
      rw [List.map_cons, Build.buildEntries, ih, List.map_cons, buildPlaces, same]
      rfl

end

/-- Every key is declared, if keys are to be. -/
def Declared (registry : Registry) (whole : Fragment) : Prop :=
  ∀ definition fields entries, registry.definition? whole.target = some definition →
    definition.kind = .composite fields → whole.tree.asEntries? = some entries →
      ∀ key ∈ Entries.keys entries, ∃ field, fields.get? key = some field

/-- The ways in which a fragment is refused: it is not what its definition calls for, has a key that
is not declared, or cannot be built place by place. -/
inductive Refused (registry : Registry) (whole : Fragment) (path : Path) : StructuralError → Prop
  | unexpectedType {definition}
      (known : registry.definition? whole.target = some definition)
      (unmet : ¬ definition.kind.expected.MetBy whole.tree) :
      Refused registry whole path
        (.unexpectedType path definition.kind.expected whole.tree.shape)
  | unknownField {definition fields key}
      (known : registry.definition? whole.target = some definition)
      (kind : definition.kind = .composite fields)
      (found : Build.undeclared? whole.tree fields = some key) :
      Refused registry whole path (.unknownField path key)
  | place {cause} (declared : whole.Declared registry)
      (stopped : buildPlaces registry path (whole.places registry) = .error cause) :
      Refused registry whole path cause

section

variable {registry : Registry} {whole : Fragment} {definition : Definition} {name : String}
  {path : Path} {cause : StructuralError}
  (known : registry.definition? whole.target = some definition)

include known

theorem refused_of_unmet {expected : Expected} (calls : definition.kind.expected = expected)
    (unmet : ¬ expected.MetBy whole.tree) :
    whole.Refused registry path (.unexpectedType path expected whole.tree.shape) := by
  subst calls
  exact .unexpectedType known unmet

/-- Only composites declare keys. -/
theorem declared_of_not_composite (other : ∀ fields, definition.kind ≠ .composite fields) :
    whole.Declared registry := by
  intro _ fields _ itsKnown itsKind
  cases known.symm.trans itsKnown
  exact absurd itsKind (other fields)

variable (failed : Build.builder registry (Build.walk registry) whole.tree definition name path =
  .error cause)

include failed

theorem refused_leaf {type : LeafType} (kind : definition.kind = .leaf type) :
    whole.Refused registry path cause := by
  have calls : definition.kind.expected = .leaf type := by rw [kind, Kind.expected]
  rw [Build.builder_leaf _ _ _ _ _ kind] at failed
  split at failed
  · contradiction
  · next unmet =>
      cases failed
      exact refused_of_unmet known calls unmet

variable (coherent : registry.Coherent)

include coherent

theorem refused_composite {fields : Dict Field} (kind : definition.kind = .composite fields) :
    whole.Refused registry path cause := by
  have calls : definition.kind.expected = .mapping := by rw [kind, Kind.expected]
  rw [Build.builder_composite _ _ _ _ _ kind] at failed
  split at failed
  · next unreadable =>
      cases failed
      exact refused_of_unmet known calls (not_not_intro unreadable)
  · next entries readable =>
      split at failed
      · next key found =>
          cases failed
          exact .unknownField known kind found
      · next declared =>
          rw [Build.undeclared?_eq_none_iff readable] at declared
          have resolved : ∀ entry ∈ fields.entries,
              ∃ itsDefinition, registry.definition? entry.2.definition = some itsDefinition := by
            rintro ⟨key, field⟩ member
            exact coherent.resolved _ _
              (Registry.refers_field known kind (Dict.mem_entries_iff.mp member))
          rw [buildFields_eq coherent readable path fields.entries resolved,
            ← places_composite known kind readable] at failed
          split at failed
          · next stopped =>
              cases failed
              refine .place ?_ stopped
              intro _ _ _ itsKnown itsKind itsReadable
              cases known.symm.trans itsKnown
              cases kind.symm.trans itsKind
              cases readable.symm.trans itsReadable
              exact declared
          · contradiction

theorem refused_list {item : String} (kind : definition.kind = .list item) :
    whole.Refused registry path cause := by
  have calls : definition.kind.expected = .sequence := by rw [kind, Kind.expected]
  have declared : whole.Declared registry := declared_of_not_composite known (kind ▸ nofun)
  rcases coherent.resolved _ _ (Registry.refers_item known (.inl kind)) with
    ⟨itemDefinition, itemKnown⟩
  rw [Build.builder_list _ _ _ _ _ kind, Build.lookUp_eq itemKnown] at failed
  dsimp only at failed
  split at failed
  · next unreadable =>
      cases failed
      exact refused_of_unmet known calls (not_not_intro unreadable)
  · next items readable =>
      rw [buildItems_eq coherent itemKnown path items 0, ← places_list known kind readable] at failed
      cases outcome : buildPlaces registry path (whole.places registry) with
      | error reason =>
          rw [outcome] at failed
          cases failed
          exact .place declared outcome
      | ok nodes =>
          rw [outcome] at failed
          contradiction

theorem refused_map {item : String} (kind : definition.kind = .map item) :
    whole.Refused registry path cause := by
  have calls : definition.kind.expected = .mapping := by rw [kind, Kind.expected]
  have declared : whole.Declared registry := declared_of_not_composite known (kind ▸ nofun)
  rcases coherent.resolved _ _ (Registry.refers_item known (.inr kind)) with
    ⟨itemDefinition, itemKnown⟩
  rw [Build.builder_map _ _ _ _ _ kind, Build.lookUp_eq itemKnown] at failed
  dsimp only at failed
  split at failed
  · next unreadable =>
      cases failed
      exact refused_of_unmet known calls (not_not_intro unreadable)
  · next entries readable =>
      rw [buildEntries_eq coherent itemKnown path entries, ← places_map known kind readable]
        at failed
      split at failed
      · next stopped =>
          cases failed
          exact .place declared stopped
      · contradiction

end

theorem refused_of_build_error {registry : Registry} (coherent : registry.Coherent)
    {whole : Fragment} {definition : Definition}
    (known : registry.definition? whole.target = some definition) {name : String} {path : Path}
    {cause : StructuralError} (failed : whole.build registry name path = .error cause) :
    whole.Refused registry path cause := by
  rw [build_eq coherent known] at failed
  cases kind : definition.kind with
  | leaf type => exact refused_leaf known failed kind
  | composite fields => exact refused_composite known failed coherent kind
  | list item => exact refused_list known failed coherent kind
  | map item => exact refused_map known failed coherent kind

end Fragment

end Blueprint
