import Blueprint.Proofs.Schema.Activation
import Blueprint.Proofs.Schema.Effect
import Mathlib.Data.List.DropRight

/-!
# The schema as a replay of directives

What a definition has become after a run of directives can be read off the directives that
target it (`Directive.replay?`): it starts from the last replacement, or else from the first
definition of its name, and gains the fields and rules that were added since.  `register_replays`
says that the registry holds exactly these definitions, however the run is cut into batches.

`Replays` carries this through a run.  Nothing can target a name before it is registered, so
what is added to a definition was added after it was introduced.
-/

namespace Blueprint

namespace Definition

/-- Declare several fields, one after the other. -/
def withFields (definition : Definition) (fields : List (String × Field)) : Definition :=
  fields.foldl (fun definition field => definition.withField field.1 field.2) definition

/-- Append several rules. -/
def withValidators (definition : Definition) (validators : List Validator) : Definition :=
  { definition with validators := definition.validators ++ validators }

theorem withFields_concat (definition : Definition) (fields : List (String × Field))
    (field : String × Field) :
    definition.withFields (fields ++ [field]) =
      (definition.withFields fields).withField field.1 field.2 := by
  rw [withFields, List.foldl_append]
  rfl

theorem withValidators_nil (definition : Definition) :
    definition.withValidators [] = definition := by
  rw [withValidators, List.append_nil]

theorem withValidators_append (definition : Definition) (first second : List Validator) :
    definition.withValidators (first ++ second) =
      (definition.withValidators first).withValidators second := by
  rw [withValidators, ← List.append_assoc]
  rfl

/-- Fields and rules do not get in each other's way. -/
theorem withField_withValidators (definition : Definition) (key : String) (field : Field)
    (validators : List Validator) :
    (definition.withValidators validators).withField key field =
      (definition.withField key field).withValidators validators := by
  rcases definition with ⟨name, kind, rules⟩
  cases kind <;> rfl

end Definition

namespace Directive

/-- The definition that a directive puts in place of the one of a name, under that name. -/
def replacement? (name : String) : Directive → Option Definition
  | .replace target definition _ => if target = name then some { definition with name } else none
  | _ => none

/-- The field that a directive adds to the definition of a name, with its key.  It has no
default. -/
def added? (name : String) : Directive → Option (String × Field)
  | .addToSchema target key definition required _ =>
      if target = name then some (key, ⟨definition.name, required, none⟩) else none
  | _ => none

/-- The rules that a directive appends to the definition of a name. -/
def appended (name : String) : Directive → List Validator
  | .addBehavior target validators => if target = name then validators else []
  | _ => []

/-- The directives after the last replacement of a name: all, if it was not replaced. -/
def sinceReplaced (name : String) (directives : List Directive) : List Directive :=
  directives.rtakeWhile fun directive => (directive.replacement? name).isNone

/-- What the definition of a name starts from: the last replacement of it, or else the first
definition of that name, in the base or supplied by a directive. -/
def origin? (base : List Definition) (directives : List Directive) (name : String) :
    Option Definition :=
  (directives.reverse.findSome? (replacement? name)).or
    ((base ++ directives.flatMap supplied).find? (·.name = name))

/-- A definition with the fields and rules that directives add to the one of a name. -/
def extend (name : String) (definition : Definition) (directives : List Directive) : Definition :=
  (definition.withFields (directives.filterMap (added? name))).withValidators
    (directives.flatMap (appended name))

/-- The definition of a name after base definitions and directives. -/
def replay? (base : List Definition) (directives : List Directive) (name : String) :
    Option Definition :=
  (origin? base directives name).map fun start => extend name start (sinceReplaced name directives)

theorem replacement?_replace (target : String) (definition : Definition)
    (supporting : List Definition) :
    (replace target definition supporting).replacement? target =
      some { definition with name := target } :=
  if_pos rfl

theorem added?_addToSchema (target key : String) (definition : Definition) (required : Bool)
    (supporting : List Definition) :
    (addToSchema target key definition required supporting).added? target =
      some (key, ⟨definition.name, required, none⟩) :=
  if_pos rfl

theorem appended_addBehavior (target : String) (validators : List Validator) :
    (addBehavior target validators).appended target = validators :=
  if_pos rfl

section

variable {name : String} {directive : Directive}

theorem revise_of_replacement? {existing replacement : Definition}
    (replaced : directive.replacement? directive.target = some replacement) :
    directive.revise existing = replacement := by
  cases directive with
  | replace target definition supporting =>
      rw [Directive.target, replacement?_replace] at replaced
      cases replaced
      rfl
  | _ => contradiction

theorem replaced?_ne (kept : directive.replacement? directive.target = none) :
    directive.replaced? ≠ some directive.target := by
  cases directive with
  | replace target definition supporting =>
      rw [Directive.target, replacement?_replace] at kept
      contradiction
  | _ => simp [replaced?]

theorem replacement?_eq_none (other : directive.target ≠ name) :
    directive.replacement? name = none := by
  cases directive with
  | replace target definition supporting => exact if_neg other
  | _ => rfl

theorem added?_eq_none (other : directive.target ≠ name) : directive.added? name = none := by
  cases directive with
  | addToSchema target key definition required supporting => exact if_neg other
  | _ => rfl

theorem appended_eq_nil (other : directive.target ≠ name) : directive.appended name = [] := by
  cases directive with
  | addBehavior target validators => exact if_neg other
  | _ => rfl

variable {directives : List Directive}

theorem filterMap_added?_eq_nil (untargeted : ∀ directive ∈ directives, directive.target ≠ name) :
    directives.filterMap (added? name) = [] :=
  List.filterMap_eq_nil_iff.mpr fun directive member => added?_eq_none (untargeted directive member)

theorem extend_untargeted (definition : Definition)
    (untargeted : ∀ directive ∈ directives, directive.target ≠ name) :
    extend name definition directives = definition := by
  have noRules : directives.flatMap (appended name) = [] := by
    rw [List.flatMap_eq_nil_iff]
    exact fun directive member => appended_eq_nil (untargeted directive member)
  rw [extend, filterMap_added?_eq_nil untargeted, noRules]
  exact Definition.withValidators_nil definition

theorem extend_concat_other (definition : Definition) (other : directive.target ≠ name) :
    extend name definition (directives ++ [directive]) = extend name definition directives := by
  rw [extend, List.filterMap_append, List.flatMap_append, List.flatMap_singleton,
    appended_eq_nil other, List.filterMap_cons_none (added?_eq_none other)]
  simp [extend]

theorem extend_concat_target (definition : Definition)
    (kept : directive.replacement? directive.target = none) :
    extend directive.target definition (directives ++ [directive]) =
      directive.revise (extend directive.target definition directives) := by
  rw [extend, List.filterMap_append, List.flatMap_append, List.flatMap_singleton]
  cases directive with
  | replace target replacement supporting =>
      rw [Directive.target, replacement?_replace] at kept
      contradiction
  | addToSchema target key added required supporting =>
      have isField := added?_addToSchema target key added required supporting
      dsimp only [Directive.target, appended]
      rw [List.filterMap_cons_some isField, List.filterMap_nil, Definition.withFields_concat,
        List.append_nil, ← Definition.withField_withValidators]
      rfl
  | addBehavior target validators =>
      dsimp only [Directive.target]
      rw [appended_addBehavior, Definition.withValidators_append, List.filterMap_cons_none rfl,
        List.filterMap_nil, List.append_nil]
      rfl

theorem sinceReplaced_concat (kept : directive.replacement? name = none) :
    sinceReplaced name (directives ++ [directive]) =
      sinceReplaced name directives ++ [directive] :=
  List.rtakeWhile_concat_pos _ _ _ (by rw [kept]; rfl)

theorem sinceReplaced_concat_replaced {definition : Definition}
    (replaced : directive.replacement? name = some definition) :
    sinceReplaced name (directives ++ [directive]) = [] :=
  List.rtakeWhile_concat_neg _ _ _ (by rw [replaced]; simp)

theorem mem_of_mem_sinceReplaced (member : directive ∈ sinceReplaced name directives) :
    directive ∈ directives :=
  (List.rtakeWhile_suffix _ directives).subset member

variable {base : List Definition}

theorem origin?_concat :
    origin? base (directives ++ [directive]) name =
      (directive.replacement? name).or ((origin? base directives name).or
        (directive.supplied.find? (·.name = name))) := by
  unfold origin?
  rw [List.reverse_concat, List.findSome?_cons, List.flatMap_append, ← List.append_assoc,
    List.find?_append, List.flatMap_singleton]
  cases directive.replacement? name with
  | some definition => rfl
  | none => simp [Option.or_assoc]

/-- A directive revises the definition of its target. -/
theorem replay?_concat_target {existing : Definition}
    (known : replay? base directives directive.target = some existing) :
    replay? base (directives ++ [directive]) directive.target =
      some (directive.revise existing) := by
  obtain ⟨start, isOrigin, rfl⟩ := Option.map_eq_some_iff.mp known
  rw [replay?, origin?_concat, isOrigin]
  cases replaced : directive.replacement? directive.target with
  | some definition =>
      rw [sinceReplaced_concat_replaced replaced, revise_of_replacement? replaced]
      exact congrArg some (Definition.withValidators_nil _)
  | none =>
      rw [sinceReplaced_concat replaced]
      exact congrArg some (extend_concat_target start replaced)

/-- A directive leaves the definitions of other names as they are, and supplies new ones. -/
theorem replay?_concat_other (other : directive.target ≠ name)
    (untargeted : replay? base directives name = none →
      ∀ earlier ∈ directives, earlier.target ≠ name) :
    replay? base (directives ++ [directive]) name =
      (replay? base directives name).or (directive.supplied.find? (·.name = name)) := by
  have kept := replacement?_eq_none other
  rw [replay?, origin?_concat, kept, sinceReplaced_concat kept, Option.none_or]
  simp only [extend_concat_other _ other]
  unfold replay? at untargeted ⊢
  cases isOrigin : origin? base directives name with
  | some start => rfl
  | none =>
      rw [isOrigin] at untargeted
      have unchanged : ∀ definition,
          extend name definition (sinceReplaced name directives) = definition := fun definition =>
        extend_untargeted definition fun earlier member =>
          untargeted rfl earlier (mem_of_mem_sinceReplaced member)
      simp [unchanged]

end

end Directive

namespace Registry

/-! ## Runs -/

/-- A registry whose definitions are those that base definitions and directives lead to. -/
structure Replays (base : List Definition) (directives : List Directive) (registry : Registry) :
    Prop where
  /-- The definitions are those of the replay. -/
  lookUp : ∀ name, registry.definition? name = Directive.replay? base directives name
  /-- Registered names are those of the base and of supplied definitions. -/
  names : ∀ name, (∃ definition, registry.definition? name = some definition) ↔
    ∃ definition ∈ base ++ directives.flatMap Directive.supplied, definition.name = name
  /-- What was targeted is registered. -/
  targets : ∀ directive ∈ directives, ∃ definition,
    registry.definition? directive.target = some definition
  /-- An added field is in place. -/
  added : ∀ name definition, registry.definition? name = some definition →
    ∀ field ∈ (Directive.sinceReplaced name directives).filterMap (Directive.added? name),
      ∃ fields, definition.fields? = some fields ∧ fields.get? field.1 = some field.2
  /-- What a definition started from is still in place. -/
  preserved : ∀ name definition start, registry.definition? name = some definition →
    Directive.origin? base directives name = some start → Definition.Extends start definition

variable {base : List Definition} {directives : List Directive} {registry result : Registry}

theorem Replays.untargeted (replays : Replays base directives registry) {name : String}
    (unknown : registry.definition? name = none) :
    ∀ directive ∈ directives, directive.target ≠ name := by
  rintro directive member rfl
  obtain ⟨definition, known⟩ := replays.targets directive member
  rw [unknown] at known
  contradiction

/-- The fields that were added to the target are in place after a directive. -/
theorem Replays.added_target {directive : Directive} (replays : Replays base directives registry)
    {existing : Definition} (known : registry.definition? directive.target = some existing)
    (admits : directive.Admits existing) {field : String × Field}
    (member : field ∈
      (Directive.sinceReplaced directive.target (directives ++ [directive])).filterMap
        (Directive.added? directive.target)) :
    ∃ fields, (directive.revise existing).fields? = some fields ∧
      fields.get? field.1 = some field.2 := by
  have before := replays.added directive.target existing known field
  cases directive with
  | replace target definition supporting =>
      have replaced := Directive.replacement?_replace target definition supporting
      rw [Directive.target, Directive.sinceReplaced_concat_replaced replaced] at member
      contradiction
  | addToSchema target key added required supporting =>
      obtain ⟨fields, isComposite, free⟩ := admits
      have kind := Definition.kind_eq_of_fields? isComposite
      refine ⟨_, Definition.fields?_of_kind (Definition.withField_kind kind), ?_⟩
      rw [Dict.get?_insert]
      rw [Directive.sinceReplaced_concat rfl, List.filterMap_append] at member
      rcases List.mem_append.mp member with old | new
      · obtain ⟨_, itsFields, inPlace⟩ := before old
        cases isComposite.symm.trans itsFields
        have different : key ≠ field.1 := by
          rintro rfl
          rw [Dict.contains, Entries.contains, ← Dict.get?, inPlace] at free
          contradiction
        rw [if_neg different]
        exact inPlace
      · have isField := Directive.added?_addToSchema target key added required supporting
        rw [Directive.target, List.filterMap_cons_some isField] at new
        cases List.mem_singleton.mp new
        exact if_pos rfl
  | addBehavior target validators =>
      rw [Directive.sinceReplaced_concat rfl, List.filterMap_append] at member
      exact before (by simpa [Directive.added?] using member)

/-- What the target started from is in place after a directive. -/
theorem Replays.preserved_target {directive : Directive}
    (replays : Replays base directives registry)
    {existing start : Definition} (known : registry.definition? directive.target = some existing)
    (admits : directive.Admits existing)
    (isOrigin : Directive.origin? base (directives ++ [directive]) directive.target = some start) :
    Definition.Extends start (directive.revise existing) := by
  rw [Directive.origin?_concat] at isOrigin
  have isReplay := (replays.lookUp directive.target).symm.trans known
  obtain ⟨earlier, isEarlier, _⟩ := Option.map_eq_some_iff.mp isReplay
  have grows := replays.preserved directive.target existing earlier known isEarlier
  cases replaced : directive.replacement? directive.target with
  | some replacement =>
      rw [replaced] at isOrigin
      cases isOrigin
      rw [Directive.revise_of_replacement? replaced]
      exact Definition.Extends.refl _
  | none =>
      rw [replaced, isEarlier] at isOrigin
      cases isOrigin
      exact grows.trans (Directive.revise_extends admits (Directive.replaced?_ne replaced))

theorem Replays.applyOne {directive : Directive} (replays : Replays base directives registry)
    (applied : registry.applyOne directive = .ok result) :
    Replays base (directives ++ [directive]) result := by
  obtain ⟨⟨existing, known, admits⟩, _⟩ := exists_applyOne_iff.mp ⟨result, applied⟩
  have after := applyOne_act applied
  simp only [Directive.act] at after
  constructor
  case lookUp =>
    intro name
    rw [after]
    split
    · next here =>
        subst here
        rw [known]
        rw [replays.lookUp] at known
        exact (Directive.replay?_concat_target known).symm
    · next other =>
        symm
        rw [replays.lookUp]
        apply Directive.replay?_concat_other other
        rw [← replays.lookUp]
        exact replays.untargeted
  case names =>
    intro name
    rw [applyOne_known_iff applied, replays.names, List.flatMap_append, List.flatMap_singleton,
      ← List.append_assoc]
    simp only [List.mem_append, or_and_right, exists_or]
  case targets =>
    intro earlier member
    rw [applyOne_known_iff applied]
    rcases List.mem_append.mp member with old | new
    · exact Or.inl (replays.targets earlier old)
    · cases List.mem_singleton.mp new
      exact Or.inl ⟨existing, known⟩
  case added =>
    intro name definition found field member
    rw [after] at found
    split at found
    · next here =>
        subst here
        rw [known] at found
        cases found
        exact replays.added_target known admits member
    · next other =>
        rw [Directive.sinceReplaced_concat (Directive.replacement?_eq_none other),
          List.filterMap_append, List.filterMap_cons_none (Directive.added?_eq_none other),
          List.filterMap_nil, List.append_nil] at member
        cases unknown : registry.definition? name with
        | some existing =>
            rw [unknown] at found
            cases found
            exact replays.added name _ unknown field member
        | none =>
            have none := replays.untargeted unknown
            rw [Directive.filterMap_added?_eq_nil fun earlier since =>
              none earlier (Directive.mem_of_mem_sinceReplaced since)] at member
            contradiction
  case preserved =>
    intro name definition start found isOrigin
    rw [after] at found
    split at found
    · next here =>
        subst here
        rw [known] at found
        cases found
        exact replays.preserved_target known admits isOrigin
    · next other =>
        rw [Directive.origin?_concat, Directive.replacement?_eq_none other, Option.none_or]
          at isOrigin
        rw [replays.lookUp, Directive.replay?] at found
        cases before : Directive.origin? base directives name with
        | some earlier =>
            rw [before] at isOrigin found
            cases isOrigin
            apply replays.preserved name definition _ _ before
            rw [replays.lookUp, Directive.replay?, before]
            exact found
        | none =>
            rw [before] at isOrigin found
            cases isOrigin.symm.trans found
            exact Definition.Extends.refl _

theorem Replays.applyAll {done : List Directive} (replays : Replays base done registry)
    (applied : registry.applyAll directives = .ok result) :
    Replays base (done ++ directives) result :=
  applyAll_induction replays (fun _ _ _ _ _ => Replays.applyOne) applied

theorem register_replays_nil {root : String}
    (registered : Registry.register root base = .ok registry) : Replays base [] registry where
  lookUp name := by
    rw [register_definition? registered, Directive.replay?, Directive.origin?]
    simp [Directive.sinceReplaced, Directive.extend, Definition.withFields,
      Definition.withValidators_nil]
  names name := by
    rw [register_definition? registered, ← Option.isSome_iff_exists]
    simp
  targets directive member := absurd member List.not_mem_nil
  added name definition _ field member := absurd member List.not_mem_nil
  preserved name definition start found isOrigin := by
    rw [register_definition? registered] at found
    rw [Directive.origin?] at isOrigin
    have same : base.find? (·.name = name) = some start := by simpa using isOrigin
    cases found.symm.trans same
    exact Definition.Extends.refl _

/-- Batches amount to one batch of all their directives. -/
theorem Regular.foldlM_apply (regular : Regular registry) (batches : List (List Directive)) :
    batches.foldlM Registry.apply registry = registry.apply batches.flatten := by
  induction batches generalizing registry with
  | nil =>
      rw [apply_eq_applyAll regular.unfrozen]
      rfl
  | cons batch rest ih =>
      rw [List.foldlM_cons, List.flatten_cons, apply_eq_applyAll regular.unfrozen,
        apply_eq_applyAll regular.unfrozen, applyAll_append]
      cases first : registry.applyAll batch with
      | error cause => rfl
      | ok middle =>
          have regular := regular.applyAll first
          exact (ih regular).trans (apply_eq_applyAll regular.unfrozen _)

/-- Batches of directives leave exactly the definitions of their replay: names are those of the
base and of supplied definitions, and each has what its last replacement, or else its first
definition, has become by what was added since.  All that it started from and every field that was
added is in place. -/
theorem register_replays {root : String} (registered : Registry.register root base = .ok registry)
    {batches : List (List Directive)}
    (applied : batches.foldlM Registry.apply registry = .ok result) :
    registry.apply batches.flatten = .ok result ∧
      (∀ name, (∃ definition, result.definition? name = some definition) ↔
        ∃ definition ∈ base ++ batches.flatten.flatMap Directive.supplied,
          definition.name = name) ∧
      (∀ name, result.definition? name = Directive.replay? base batches.flatten name) ∧
      ∀ name definition, result.definition? name = some definition →
        (∀ start, Directive.origin? base batches.flatten name = some start →
          Definition.Extends start definition) ∧
        ∀ field ∈ (Directive.sinceReplaced name batches.flatten).filterMap (Directive.added? name),
          ∃ fields, definition.fields? = some fields ∧ fields.get? field.1 = some field.2 := by
  have regular := register_regular registered
  rw [regular.foldlM_apply] at applied
  have wholly := applied
  rw [apply_eq_applyAll regular.unfrozen] at wholly
  have replays := (register_replays_nil registered).applyAll wholly
  rw [List.nil_append] at replays
  refine ⟨applied, replays.names, replays.lookUp, ?_⟩
  intro name definition found
  constructor
  · intro start
    exact replays.preserved name definition start found
  · exact replays.added name definition found

/-- A site whose tag may be left out. -/
def taggedSite : List Definition :=
  [Definition.leaf "tag" .string,
    ⟨"site", .composite (Dict.ofList [("tag", (Field.optional "tag").withDefault (.string "red"))]),
      []⟩]

/-- A note is added to the site, the site is replaced by one that must have a tag, and a note is
added again. -/
def siteBatches : List (List Directive) :=
  [[.addToSchema "site" "note" (.leaf "note" .string) false [],
      .replace "site" ((Definition.composite "place").withNeeded "tag" "tag") []],
    [.addBehavior "site" [.filled],
      .addToSchema "site" "note" (.leaf "note" .string) true []]]

/-- A replacement erases the added note, not what is added later. -/
theorem replays_siteBatches :
    ∃ registry result, Registry.register "site" taggedSite = .ok registry ∧
      siteBatches.foldlM Registry.apply registry = .ok result ∧
      result.definition? "site" = some ⟨"site",
        .composite (Dict.ofList [("note", Field.needed "note"), ("tag", Field.needed "tag")]),
        [.filled]⟩ := by
  obtain ⟨registry, result, registered, applied⟩ :
      ∃ registry result, Registry.register "site" taggedSite = .ok registry ∧
        siteBatches.foldlM Registry.apply registry = .ok result :=
    ⟨_, _, rfl, rfl⟩
  obtain ⟨_, _, lookUp, _⟩ := register_replays registered applied
  exact ⟨registry, result, registered, applied, (lookUp "site").trans rfl⟩

end Registry

end Blueprint
