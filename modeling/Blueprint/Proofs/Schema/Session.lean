import Blueprint.Proofs.Schema.Activation
import Blueprint.Proofs.Schema.Contributions
import Blueprint.Proofs.Schema.InPlace
import Blueprint.Proofs.Schema.Patterns

/-!
# Sessions

A program that sets up a schema calls the operations on a registry one after another, and may go on
after one that failed.  `Session.perform` is such a call with all that it leaves behind, and
`Session.run` a whole run.

Whatever the calls are, the registry stays one that was grown or one that was grown and frozen
(`Reachable.perform`), so it is sound after every run (`run_sound`).  A call that fails changes
nothing (`perform_failed`), and only a freeze that succeeds makes a registry frozen.
-/

namespace Blueprint

/-! ## Sound registries -/

namespace Registry

/-- Whether a registered definition has a rule with a pattern of this text. -/
def HasPattern (registry : Registry) (source : String) : Prop :=
  ∃ name definition code, registry.definition? name = some definition ∧
    Validator.pattern source code ∈ definition.validators

/-- A registry on which its operations can rely. -/
structure Sound (registry : Registry) : Prop where
  /-- The root is registered. -/
  rooted : ∃ definition, registry.root? = some definition
  /-- Definitions stand under their own names. -/
  named : ∀ name definition, registry.definition? name = some definition → definition.name = name
  /-- Contributed keys are fields of a composite. -/
  contributions : ∀ target, ∀ key ∈ registry.contributedFields target,
    ∃ definition fields, registry.definition? target = some definition ∧
      definition.kind = .composite fields ∧ fields.contains key = true
  /-- No pattern is prepared early. -/
  unprepared : registry.frozen = false → ∀ source, registry.pattern? source = none
  /-- Names that a frozen registry refers to are registered. -/
  resolved : registry.frozen = true → registry.Resolved
  /-- No definition of a frozen registry can contain itself. -/
  acyclic : registry.frozen = true → registry.Acyclic
  /-- The patterns of a frozen registry are prepared from their texts. -/
  prepared : registry.frozen = true → ∀ source, registry.HasPattern source →
    ∃ pattern, registry.pattern? source = some pattern ∧
      Pattern.compile? source = some pattern ∧ pattern.source = source
  /-- Nothing else is prepared. -/
  only : ∀ source pattern, registry.pattern? source = some pattern → registry.HasPattern source

/-- A registry that was extended in some way, and frozen or not. -/
def Reachable (registry : Registry) : Prop :=
  Grown registry ∨ registry.Frozen

variable {registry result : Registry}

theorem ContributionsDeclared.exists_fields (declared : registry.ContributionsDeclared)
    (target key : String) (contributed : key ∈ registry.contributedFields target) :
    ∃ definition fields, registry.definition? target = some definition ∧
      definition.kind = .composite fields ∧ fields.contains key = true := by
  obtain ⟨definition, known, fields, isComposite, declares⟩ := declared target key contributed
  exact ⟨definition, fields, known, Definition.kind_eq_of_fields? isComposite, declares⟩

theorem Grown.pattern?_eq_none (grown : Grown registry) (source : String) :
    registry.pattern? source = none := by
  rw [pattern?, grown.patterns_eq]
  rfl

theorem Grown.sound (grown : Grown registry) : registry.Sound := by
  have thawed : registry.frozen ≠ true := by simp [grown.regular.unfrozen]
  constructor
  case rooted => exact grown.regular.rooted
  case named => exact fun _ _ known => grown.regular.named known
  case contributions => exact grown.contributionsDeclared.exists_fields
  case unprepared => exact fun _ => grown.pattern?_eq_none
  case resolved => exact fun frozen => absurd frozen thawed
  case acyclic => exact fun frozen => absurd frozen thawed
  case prepared => exact fun frozen => absurd frozen thawed
  case only =>
    intro source pattern held
    rw [grown.pattern?_eq_none] at held
    contradiction

theorem Frozen.sound (frozen : registry.Frozen) : registry.Sound := by
  constructor
  case rooted => exact frozen.rooted
  case named => exact fun _ _ known => frozen.named known
  case contributions => exact frozen.contributionsDeclared.exists_fields
  case unprepared =>
    intro thawed
    rw [frozen.isFrozen] at thawed
    contradiction
  case resolved => exact fun _ => frozen.coherent.resolved
  case acyclic => exact fun _ => frozen.coherent.acyclic
  case prepared =>
    rintro - source ⟨name, definition, code, known, member⟩
    obtain ⟨pattern, compiled⟩ := frozen.coherent.usable name definition known _ member
    exact ⟨pattern, (frozen.pattern?_eq known member).trans compiled, compiled,
      Pattern.source_of_compile? compiled⟩
  case only =>
    intro source pattern held
    by_contra unused
    rw [frozen.pattern?_eq_none] at held
    · contradiction
    · exact fun name definition known code member => unused ⟨name, definition, code, known, member⟩

theorem Reachable.sound (reachable : registry.Reachable) : registry.Sound :=
  reachable.elim Grown.sound Frozen.sound

theorem Reachable.apply {directives : List Directive} (reachable : registry.Reachable)
    (applied : registry.apply directives = .ok result) : result.Reachable := by
  rcases reachable with grown | frozen
  · exact .inl (grown.apply applied)
  · rw [apply_ok_iff, frozen.isFrozen] at applied
    cases applied.1

theorem Reachable.setPlacement {placement : HostPlacement} (reachable : registry.Reachable)
    (placed : registry.setPlacement placement = .ok result) : result.Reachable := by
  rcases reachable with grown | frozen
  · exact .inl (grown.place placed)
  · rw [setPlacement_ok_iff, frozen.isFrozen] at placed
    cases placed.1

theorem Reachable.freeze (reachable : registry.Reachable)
    (accepted : registry.freeze = .ok result) : result.Reachable := by
  rcases reachable with grown | frozen
  · exact .inr ⟨registry, grown, accepted⟩
  · rw [Registry.freeze, frozen.isFrozen] at accepted
    cases accepted
    exact .inr frozen

end Registry

/-! ## Runs -/

/-- A registry and the policies that go with it, which calls change in place. -/
structure Session where
  registry : Registry
  policies : PolicyTable

/-- What a program can ask for. -/
inductive Call where
  /-- Apply a batch of directives. -/
  | apply (directives : List Directive)
  /-- Apply a profile. -/
  | applyProfile (profile : Profile)
  /-- Install the host placement step. -/
  | setPlacement (placement : HostPlacement)
  /-- Freeze the registry. -/
  | freeze

namespace Session

/-- Put the registry that an operation leaves in place, and answer as it does. -/
def update (session : Session) : Registry × Option ExtensionError → Session × Option ExtensionError
  | (registry, answer) => ({ session with registry }, answer)

/-- Apply a profile in place: its directives, its placement step and then its policies.  The first
step that fails ends the call, and those before it stay done. -/
def applyProfile (session : Session) (profile : Profile) : Session × Option ExtensionError :=
  match session.update (session.registry.applyInPlace profile.directives) with
  | (session, some cause) => (session, some cause)
  | (session, none) =>
      let placed :=
        match profile.placement with
        | none => (session, none)
        | some placement => session.update (session.registry.setPlacementInPlace placement)
      match placed with
      | (session, some cause) => (session, some cause)
      | (session, none) =>
          ({ session with policies := session.policies.setAll profile.mergePolicies.entries }, none)

/-- The session after a call, and why the call failed if it did. -/
def perform (session : Session) : Call → Session × Option ExtensionError
  | .apply directives => session.update (session.registry.applyInPlace directives)
  | .applyProfile profile => session.applyProfile profile
  | .setPlacement placement => session.update (session.registry.setPlacementInPlace placement)
  | .freeze => session.update session.registry.freezeInPlace

/-- The session after several calls, whether they failed or not. -/
def run (session : Session) : List Call → Session
  | [] => session
  | call :: rest => (session.perform call).1.run rest

/-- Put the registry of an outcome in place, or answer why there is none. -/
def accept (session : Session) : Except ExtensionError Registry → Session × Option ExtensionError
  | .ok registry => ({ session with registry }, none)
  | .error cause => (session, some cause)

theorem update_after (session : Session) (outcome : Except ExtensionError Registry) :
    session.update (session.registry.after outcome) = session.accept outcome := by
  cases outcome <;> rfl

theorem perform_apply (session : Session) (directives : List Directive) :
    session.perform (.apply directives) = session.accept (session.registry.apply directives) := by
  rw [perform, Registry.applyInPlace_eq, update_after]

theorem perform_setPlacement (session : Session) (placement : HostPlacement) :
    session.perform (.setPlacement placement) =
      session.accept (session.registry.setPlacement placement) := by
  rw [perform, Registry.setPlacementInPlace_eq, update_after]

theorem perform_freeze (session : Session) :
    session.perform .freeze = session.accept session.registry.freeze := by
  rw [perform, Registry.freezeInPlace_eq, update_after]

/-- A profile is applied as a whole or not at all: its placement step cannot fail once its
directives were accepted. -/
theorem perform_applyProfile (session : Session) (profile : Profile) :
    session.perform (.applyProfile profile) =
      match profile.applyTo session.registry session.policies with
      | .ok (registry, policies) => (⟨registry, policies⟩, none)
      | .error cause => (session, some cause) := by
  unfold perform applyProfile Profile.applyTo
  simp only [Registry.applyInPlace_eq, Registry.setPlacementInPlace_eq, update_after]
  cases applied : session.registry.apply profile.directives with
  | error cause => rfl
  | ok extended =>
      obtain ⟨unfrozen, applied⟩ := Registry.apply_ok_iff.mp applied
      obtain ⟨_, _, _, sameFrozen⟩ := Registry.applyAll_rest applied
      cases profile.placement with
      | none => rfl
      | some placement =>
          have placed : extended.setPlacement placement = .ok { extended with placement } :=
            Registry.setPlacement_ok_iff.mpr ⟨sameFrozen.trans unfrozen, rfl⟩
          simp only [accept, placed]

variable {session : Session} {call : Call} {cause : ExtensionError}

theorem accept_failed {outcome : Except ExtensionError Registry}
    (failed : (session.accept outcome).2 = some cause) : (session.accept outcome).1 = session := by
  cases outcome with
  | error => rfl
  | ok registry => contradiction

/-- A call that fails changes nothing. -/
theorem perform_failed (failed : (session.perform call).2 = some cause) :
    (session.perform call).1 = session := by
  cases call with
  | apply directives =>
      rw [perform_apply] at failed ⊢
      exact accept_failed failed
  | setPlacement placement =>
      rw [perform_setPlacement] at failed ⊢
      exact accept_failed failed
  | freeze =>
      rw [perform_freeze] at failed ⊢
      exact accept_failed failed
  | applyProfile profile =>
      rw [perform_applyProfile] at failed ⊢
      split at failed
      · contradiction
      · rfl

/-! ## What calls preserve -/

theorem accept_reachable {outcome : Except ExtensionError Registry}
    (reachable : session.registry.Reachable)
    (next : ∀ result, outcome = .ok result → result.Reachable) :
    (session.accept outcome).1.registry.Reachable := by
  cases outcome with
  | error => exact reachable
  | ok result => exact next result rfl

theorem perform_reachable (reachable : session.registry.Reachable) (call : Call) :
    (session.perform call).1.registry.Reachable := by
  cases call with
  | apply directives =>
      rw [perform_apply]
      exact accept_reachable reachable fun _ => reachable.apply
  | setPlacement placement =>
      rw [perform_setPlacement]
      exact accept_reachable reachable fun _ => reachable.setPlacement
  | freeze =>
      rw [perform_freeze]
      exact accept_reachable reachable fun _ => reachable.freeze
  | applyProfile profile =>
      rw [perform_applyProfile]
      split
      · next registry policies applied =>
          obtain ⟨extended, directives, rfl | ⟨placement, placed⟩⟩ := Profile.applyTo_steps applied
          · exact reachable.apply directives
          · exact (reachable.apply directives).setPlacement placed
      · exact reachable

theorem run_reachable (reachable : session.registry.Reachable) (calls : List Call) :
    (session.run calls).registry.Reachable := by
  induction calls generalizing session with
  | nil => exact reachable
  | cons call rest ih => exact ih (perform_reachable reachable call)

theorem accept_frozen {outcome : Except ExtensionError Registry}
    (next : ∀ result, outcome = .ok result → result.frozen = session.registry.frozen) :
    (session.accept outcome).1.registry.frozen = session.registry.frozen := by
  cases outcome with
  | error => rfl
  | ok result => exact next result rfl

/-- Only a call to freeze a registry makes it frozen or not. -/
theorem perform_frozen (other : call ≠ .freeze) :
    (session.perform call).1.registry.frozen = session.registry.frozen := by
  cases call with
  | apply directives =>
      rw [perform_apply]
      exact accept_frozen fun _ => Registry.apply_frozen
  | setPlacement placement =>
      rw [perform_setPlacement]
      exact accept_frozen fun _ => Registry.setPlacement_frozen
  | freeze => contradiction
  | applyProfile profile =>
      rw [perform_applyProfile]
      split
      · next registry policies applied =>
          obtain ⟨extended, directives, rfl | ⟨placement, placed⟩⟩ := Profile.applyTo_steps applied
          · exact Registry.apply_frozen directives
          · exact (Registry.setPlacement_frozen placed).trans (Registry.apply_frozen directives)
      · rfl

theorem perform_freeze_frozen_iff :
    (session.perform .freeze).1.registry.frozen = true ↔
      session.registry.frozen = true ∨ (session.perform .freeze).2 = none := by
  rw [perform_freeze]
  cases accepted : session.registry.freeze with
  | error cause => simp [accept]
  | ok result => simp [accept, Registry.freeze_frozen accepted]

/-- A registry is frozen after a run if it was before or some call to freeze it succeeded. -/
theorem run_frozen_iff {calls : List Call} :
    (session.run calls).registry.frozen = true ↔
      session.registry.frozen = true ∨ ∃ earlier later, calls = earlier ++ .freeze :: later ∧
        ((session.run earlier).perform .freeze).2 = none := by
  induction calls generalizing session with
  | nil => simp [run]
  | cons call rest ih =>
      -- The call that succeeds is the first one or one of the rest.
      have split : (∃ earlier later, call :: rest = earlier ++ .freeze :: later ∧
            ((session.run earlier).perform .freeze).2 = none) ↔
          (call = .freeze ∧ (session.perform .freeze).2 = none) ∨
            ∃ earlier later, rest = earlier ++ .freeze :: later ∧
              (((session.perform call).1.run earlier).perform .freeze).2 = none := by
        simp only [List.cons_eq_append_iff]
        constructor
        · rintro ⟨_, later, ⟨rfl, first⟩ | ⟨earlier, rfl, isLater⟩, succeeds⟩
          · cases first
            exact .inl ⟨rfl, succeeds⟩
          · exact .inr ⟨earlier, later, isLater, succeeds⟩
        · rintro (⟨rfl, succeeds⟩ | ⟨earlier, later, isLater, succeeds⟩)
          · exact ⟨[], rest, .inl ⟨rfl, rfl⟩, succeeds⟩
          · exact ⟨call :: earlier, later, .inr ⟨earlier, rfl, isLater⟩, succeeds⟩
      rw [run, ih, split, ← or_assoc]
      by_cases freezes : call = .freeze
      · subst freezes
        rw [perform_freeze_frozen_iff]
        simp
      · rw [perform_frozen freezes]
        simp [freezes]

/-- A registry is sound after every run from base definitions, whatever the calls were and whether
they failed.  It is frozen if some call to freeze it succeeded. -/
theorem run_sound {root : String} {base : List Definition} {registry : Registry}
    (registered : Registry.register root base = .ok registry) (policies : PolicyTable)
    (calls : List Call) :
    (run ⟨registry, policies⟩ calls).registry.Sound ∧
      ((run ⟨registry, policies⟩ calls).registry.frozen = true ↔
        ∃ earlier later, calls = earlier ++ .freeze :: later ∧
          ((run ⟨registry, policies⟩ earlier).perform .freeze).2 = none) := by
  have grown := Registry.Grown.register registered
  constructor
  · exact (run_reachable (.inl grown) calls).sound
  · rw [run_frozen_iff, grown.regular.unfrozen]
    simp

/-- A site of pages that are not there yet. -/
def unfinishedSite : List Definition :=
  [.list "site" "page"]

/-- The site is frozen too early, gets its pages in a second attempt, is frozen, and then asked to
change once more. -/
def hastyCalls : List Call :=
  [.freeze, .apply [.addBehavior "page" [.matching "^p"]],
    .applyProfile ((Profile.empty "pages").withDirective
      (.replace "site" (.list "site" "page") [⟨"page", .leaf .string, [.matching "^p"]⟩])),
    .freeze, .setPlacement ⟨"host", "contained_in", "host_agent"⟩]

/-- Calls that fail on the way do not keep the registry from being frozen with its pattern. -/
theorem run_hastyCalls :
    ∃ registry, Registry.register "site" unfinishedSite = .ok registry ∧
      (run ⟨registry, .empty⟩ hastyCalls).registry.Sound ∧
      (run ⟨registry, .empty⟩ hastyCalls).registry.frozen = true ∧
      ∃ pattern, (run ⟨registry, .empty⟩ hastyCalls).registry.pattern? "^p" = some pattern ∧
        Pattern.compile? "^p" = some pattern := by
  have evaluated : (Registry.register "site" unfinishedSite).toOption.any (fun registry =>
      ((run ⟨registry, .empty⟩ (hastyCalls.take 3)).perform .freeze).2 = none ∧
        ((run ⟨registry, .empty⟩ hastyCalls).registry.definition? "page").map
          Definition.validators = some [.matching "^p"]) = true := by
    decide +kernel
  obtain ⟨registry, registered, holds⟩ := exists_of_any_toOption evaluated
  obtain ⟨succeeds, hasRules⟩ := of_decide_eq_true holds
  obtain ⟨sound, frozen_iff⟩ := run_sound registered .empty hastyCalls
  have frozen := frozen_iff.mpr ⟨hastyCalls.take 3, hastyCalls.drop 4, rfl, succeeds⟩
  obtain ⟨definition, known, rules⟩ := Option.map_eq_some_iff.mp hasRules
  obtain ⟨pattern, prepared, compiled, _⟩ :=
    sound.prepared frozen "^p" ⟨"page", definition, _, known, rules ▸ List.mem_cons_self⟩
  exact ⟨registry, registered, sound, frozen, pattern, prepared, compiled⟩

end Session

end Blueprint
