import Blueprint.Proofs.Schema.Effect
import Blueprint.Proofs.Schema.Session

/-!
# Calls that fail

A directive that fails may have changed definitions before (`Registry.change`), but a batch works on
a copy, so a call that fails has changed nothing (`perform_failed`).  So the calls that failed can be
struck from a run (`run_successful`), and the others are answered as before (`log_successful`).  A
frozen registry refuses every further call but to be frozen again, which has no effect
(`run_of_frozen`).
-/

namespace Blueprint

namespace Session

variable {session : Session}

/-- A profile of which some directive fails changes nothing, whatever was done before and whatever
the directive itself left. -/
theorem perform_applyProfile_failed {profile : Profile} {before after : List Directive}
    {directive : Directive} {staged left : Registry} {cause : ExtensionError}
    (unfrozen : session.registry.frozen = false)
    (split : profile.directives = before ++ directive :: after)
    (accepted : session.registry.changeAll before = (staged, none))
    (failed : staged.change directive = (left, some cause)) :
    session.perform (.applyProfile profile) = (session, some cause) := by
  have earlier : session.registry.applyAll before = .ok staged := by
    rw [← Registry.outcome_changeAll, accepted]
    rfl
  have refused : staged.applyOne directive = .error cause := by
    rw [← Registry.outcome_change, failed]
    rfl
  have batch : session.registry.apply profile.directives = .error cause := by
    rw [Registry.apply_eq_applyAll unfrozen, split, Registry.applyAll_append, earlier]
    change staged.applyAll (directive :: after) = .error cause
    rw [Registry.applyAll, refused]
  rw [perform_applyProfile, Profile.applyTo, batch]

/-! ## Striking failed calls -/

/-- The calls of a run with their answers: why they failed, if they did. -/
def log (session : Session) : List Call → List (Call × Option ExtensionError)
  | [] => []
  | call :: rest => (call, (session.perform call).2) :: (session.perform call).1.log rest

/-- The calls of a run that do not fail. -/
def successful (session : Session) (calls : List Call) : List Call :=
  ((session.log calls).filter fun entry => entry.2.isNone).map Prod.fst

theorem run_append (session : Session) (before after : List Call) :
    session.run (before ++ after) = (session.run before).run after := by
  induction before generalizing session with
  | nil => rfl
  | cons call rest ih => exact ih (session.perform call).1

theorem successful_cons_of_ok {call : Call} (succeeds : (session.perform call).2 = none)
    (rest : List Call) :
    session.successful (call :: rest) = call :: (session.perform call).1.successful rest := by
  simp [successful, log, succeeds]

theorem successful_cons_of_error {call : Call} {cause : ExtensionError}
    (failed : (session.perform call).2 = some cause) (rest : List Call) :
    session.successful (call :: rest) = session.successful rest := by
  simp [successful, log, failed, perform_failed failed]

/-- Without the calls that fail a run ends the same. -/
theorem run_successful (session : Session) (calls : List Call) :
    session.run (session.successful calls) = session.run calls := by
  induction calls generalizing session with
  | nil => rfl
  | cons call rest ih =>
      cases answer : (session.perform call).2 with
      | none =>
          rw [successful_cons_of_ok answer]
          exact ih (session.perform call).1
      | some cause =>
          rw [successful_cons_of_error answer, ih, run, perform_failed answer]

/-- Without the calls that fail the others are answered the same. -/
theorem log_successful (session : Session) (calls : List Call) :
    session.log (session.successful calls) =
      (session.log calls).filter fun entry => entry.2.isNone := by
  induction calls generalizing session with
  | nil => rfl
  | cons call rest ih =>
      cases answer : (session.perform call).2 with
      | none =>
          rw [successful_cons_of_ok answer]
          simp [log, answer, ih]
      | some cause =>
          rw [successful_cons_of_error answer, ih]
          simp [log, answer, perform_failed answer]

/-! ## Frozen registries -/

section

variable (frozen : session.registry.frozen = true)

include frozen

theorem perform_freeze_of_frozen : session.perform .freeze = (session, none) := by
  rw [perform_freeze, Registry.freeze, if_pos frozen]
  rfl

theorem perform_of_frozen {call : Call} (other : call ≠ .freeze) :
    session.perform call = (session, some .frozen) := by
  cases call with
  | freeze => contradiction
  | apply directives =>
      rw [perform_apply, Registry.apply, if_pos frozen]
      rfl
  | applyProfile profile =>
      rw [perform_applyProfile, Profile.applyTo, Registry.apply, if_pos frozen]
  | setPlacement placement =>
      rw [perform_setPlacement, Registry.setPlacement, if_pos frozen]
      rfl

/-- Calls leave a frozen registry as it is: those to freeze it succeed and all others fail. -/
theorem perform_fst_of_frozen (call : Call) : (session.perform call).1 = session := by
  by_cases freezes : call = .freeze
  · rw [freezes, perform_freeze_of_frozen frozen]
  · rw [perform_of_frozen frozen freezes]

theorem run_of_frozen (calls : List Call) : session.run calls = session := by
  induction calls with
  | nil => rfl
  | cons call rest ih => rw [run, perform_fst_of_frozen frozen, ih]

theorem log_of_frozen {calls : List Call} {call : Call} {answer : Option ExtensionError}
    (logged : (call, answer) ∈ session.log calls) :
    (call = .freeze ∧ answer = none) ∨ (call ≠ .freeze ∧ answer = some .frozen) := by
  induction calls with
  | nil => contradiction
  | cons first rest ih =>
      rw [log, perform_fst_of_frozen frozen] at logged
      rcases List.mem_cons.mp logged with here | later
      · cases here
        by_cases freezes : call = .freeze
        · exact .inl ⟨freezes, by rw [freezes, perform_freeze_of_frozen frozen]⟩
        · exact .inr ⟨freezes, by rw [perform_of_frozen frozen freezes]⟩
      · exact ih later

end

/-- Calls that fail leave no trace, and freezing is final.  A run without the calls that fail ends
the same and answers the other calls the same.  A profile with a directive that fails changes
nothing.  Once a registry is frozen, every call but to freeze it again is refused, and nothing
changes any more. -/
theorem run_traceless (session : Session) :
    (∀ calls, session.run (session.successful calls) = session.run calls ∧
      session.log (session.successful calls) =
        (session.log calls).filter fun entry => entry.2.isNone) ∧
    (∀ (profile : Profile) before directive after staged left cause,
      session.registry.frozen = false → profile.directives = before ++ directive :: after →
        session.registry.changeAll before = (staged, none) →
          staged.change directive = (left, some cause) →
            session.perform (.applyProfile profile) = (session, some cause)) ∧
    ∀ earlier, ((session.run earlier).perform .freeze).2 = none →
      ∀ later, session.run (earlier ++ .freeze :: later) = session.run (earlier ++ [.freeze]) ∧
        ∀ call answer, (call, answer) ∈ (session.run (earlier ++ [.freeze])).log later →
          (call = .freeze ∧ answer = none) ∨ (call ≠ .freeze ∧ answer = some .frozen) := by
  refine ⟨?_, ?_, ?_⟩
  · intro calls
    exact ⟨run_successful session calls, log_successful session calls⟩
  · intro profile before directive after staged left cause unfrozen split accepted failed
    exact perform_applyProfile_failed unfrozen split accepted failed
  · intro earlier succeeds later
    have frozen : (session.run (earlier ++ [.freeze])).registry.frozen = true := by
      rw [run_append]
      exact perform_freeze_frozen_iff.mpr (.inr succeeds)
    constructor
    · rw [← List.singleton_append, ← List.append_assoc, run_append, run_of_frozen frozen]
    · exact fun call answer => log_of_frozen frozen

/-- The pages of a site. -/
def sitePages : Directive :=
  .replace "site" (.list "site" "page") [⟨"page", .leaf .string, []⟩]

/-- The pages of a site, and others that clash with them. -/
def clashingPages : Directive :=
  .replace "site" (.list "site" "page") [⟨"page", .leaf .string, []⟩, ⟨"page", .leaf .any, []⟩]

/-- A profile whose second directive fails. -/
def clashingProfile : Profile :=
  (((Profile.empty "clash").withDirective (.addBehavior "site" [.filled])).withDirective
    clashingPages).withMergePolicy "pages" .mergeUnion

/-- A program that goes on after failures. -/
def stubbornCalls : List Call :=
  [.applyProfile clashingProfile, .freeze, .apply [sitePages]]

/-- The clash is found when a page was installed already, in the copy.  It leaves no trace, and
neither do the freeze that comes too early and the changes that come too late. -/
theorem run_stubbornCalls :
    ∃ registry, Registry.register "site" unfinishedSite = .ok registry ∧
      (∃ staged left : Registry, ∃ page,
        registry.changeAll [.addBehavior "site" [.filled]] = (staged, none) ∧
        staged.change clashingPages = (left, some (.definitionConflict "page")) ∧
        left.definition? "page" = some page ∧ registry.definition? "page" = none) ∧
      perform ⟨registry, .empty⟩ (.applyProfile clashingProfile) =
        (⟨registry, .empty⟩, some (.definitionConflict "page")) ∧
      run ⟨registry, .empty⟩ stubbornCalls = run ⟨registry, .empty⟩ [.apply [sitePages]] ∧
      ∀ later, run ⟨registry, .empty⟩ (stubbornCalls ++ .freeze :: later) =
          run ⟨registry, .empty⟩ (stubbornCalls ++ [.freeze]) ∧
        ∀ answer, (.applyProfile (.empty "nothing"), answer) ∈
          (run ⟨registry, .empty⟩ (stubbornCalls ++ [.freeze])).log later →
            answer = some .frozen := by
  obtain ⟨registry, registered⟩ :
      ∃ registry, Registry.register "site" unfinishedSite = .ok registry :=
    ⟨_, rfl⟩
  obtain ⟨struck, atomic, final⟩ := run_traceless ⟨registry, .empty⟩
  cases registered
  refine ⟨_, rfl, ⟨_, _, _, rfl, rfl, rfl, rfl⟩, ?_, ?_, ?_⟩
  · exact atomic clashingProfile [.addBehavior "site" [.filled]] clashingPages [] _ _ _ rfl rfl
      rfl rfl
  · exact (struck stubbornCalls).1.symm
  · intro later
    obtain ⟨same, answers⟩ := final stubbornCalls rfl later
    refine ⟨same, fun answer logged => ?_⟩
    rcases answers _ _ logged with ⟨freezes, _⟩ | ⟨_, refused⟩
    · contradiction
    · exact refused

end Session

end Blueprint
