import Blueprint.Proofs.Instance.Obligations
import Blueprint.Proofs.Schema.Rules
import Blueprint.Parse

/-!
# More rules accept fewer documents

Rules that are added to a schema take part in the third step of parsing only.  The same instance is
built (`Stricter.structural_eq`), a document that meets more rules meets the old ones
(`Stricter.validate`), and the same plan is emitted (`Stricter.emit_eq`).  So whatever a document
came to before, it now comes to the same or breaks a rule (`parse_narrows`).
-/

namespace Blueprint

namespace Registry

variable {registry stricter : Registry}

theorem Stricter.structural_eq (narrows : Stricter registry stricter) (raw : Tree) :
    stricter.structural raw = registry.structural raw := by
  rw [structural, structural, narrows.root]
  exact Instance.build_congr narrows.bare registry.root raw

theorem Stricter.emit_eq (narrows : Stricter registry stricter) (root : Instance) :
    stricter.emit root = registry.emit root := by
  have contributed : stricter.contributedFields stricter.root =
      registry.contributedFields registry.root := by
    rw [contributedFields, contributedFields, narrows.contributed, narrows.root]
  rw [emit, emit, contributed, narrows.placement]

/-- A document that meets the rules of the stricter registry meets those of the other one. -/
theorem Stricter.validate (narrows : Stricter registry stricter) (frozen : registry.Frozen)
    (itsFrozen : stricter.Frozen) {checks : Checks} (blind : checks.IgnoreRegistry)
    {root : Instance} (valid : Validation.validate checks stricter root = .ok ()) :
    Validation.validate checks registry root = .ok () := by
  rw [Validation.validate_ok_iff] at valid ⊢
  intro ancestors node encloses validator member
  cases known : registry.definition? node.definition with
  | none =>
      rw [Validation.validatorsOf, known] at member
      contradiction
  | some definition =>
      rw [Validation.validatorsOf, known] at member
      obtain ⟨other, found, more⟩ := narrows.rules known
      rw [frozen.run_eq itsFrozen blind known member found (more member)]
      apply valid ancestors node encloses
      rw [Validation.validatorsOf, found]
      exact more member

end Registry

/-! ## Parsing -/

/-- What parsing may come to if there are more rules: the same, or a broken rule in place of what
comes with the rules or after them. -/
inductive Narrows : (before after : Except ParseError Plan) → Prop
  | same (outcome : Except ParseError Plan) : Narrows outcome outcome
  | accepted (plan : Plan) (broken : SemanticError) : Narrows (.ok plan) (.error (.semantic broken))
  | refused (first broken : SemanticError) :
      Narrows (.error (.semantic first)) (.error (.semantic broken))
  | unemitted (cause : EmitError) (broken : SemanticError) :
      Narrows (.error (.emit cause)) (.error (.semantic broken))

section

variable {before after : Except ParseError Plan} {plan : Plan} {cause : ParseError}

theorem Narrows.was_ok (narrows : Narrows before after) (accepted : after = .ok plan) :
    before = .ok plan := by
  cases narrows with
  | same outcome => exact accepted
  | _ => contradiction

theorem Narrows.of_ok (narrows : Narrows before after) (accepted : before = .ok plan) :
    after = .ok plan ∨ ∃ broken, after = .error (.semantic broken) := by
  cases narrows with
  | same outcome => exact .inl accepted
  | accepted _ broken => exact .inr ⟨broken, rfl⟩
  | _ => contradiction

theorem Narrows.of_error (narrows : Narrows before after) (refused : before = .error cause) :
    ∃ other, after = .error other ∧
      (other = cause ∨ (∃ broken, other = .semantic broken) ∧
        ((∃ first, cause = .semantic first) ∨ ∃ late, cause = .emit late)) := by
  cases narrows with
  | same outcome => exact ⟨cause, refused, .inl rfl⟩
  | accepted => contradiction
  | refused first broken =>
      cases refused
      exact ⟨_, rfl, .inr ⟨⟨broken, rfl⟩, .inl ⟨first, rfl⟩⟩⟩
  | unemitted late broken =>
      cases refused
      exact ⟨_, rfl, .inr ⟨⟨broken, rfl⟩, .inr ⟨late, rfl⟩⟩⟩

end

section

variable {registry stricter : Registry} (narrows : Registry.Stricter registry stricter)
  (frozen : registry.Frozen) (itsFrozen : stricter.Frozen) {checks : Checks}
  (blind : checks.IgnoreRegistry)

include narrows frozen itsFrozen blind

theorem parseMerged_narrows (merged : Tree) :
    Narrows (parseMerged checks registry merged) (parseMerged checks stricter merged) := by
  unfold parseMerged
  rw [narrows.structural_eq]
  cases registry.structural merged with
  | error cause => exact .same _
  | ok root =>
      dsimp only
      rw [narrows.emit_eq]
      cases after : Validation.validate checks stricter root with
      | ok _ =>
          rw [narrows.validate frozen itsFrozen blind after]
          exact .same _
      | error broken =>
          cases Validation.validate checks registry root with
          | error first => exact .refused first broken
          | ok _ =>
              cases registry.emit root with
              | error cause => exact .unemitted cause broken
              | ok plan => exact .accepted plan broken

theorem parse_narrows (sources : List Source) (policies : PolicyTable) :
    Narrows (parse checks registry sources policies) (parse checks stricter sources policies) := by
  unfold parse
  rw [frozen.isFrozen, itsFrozen.isFrozen]
  cases merge sources policies with
  | error cause => exact .same _
  | ok merged => exact parseMerged_narrows narrows frozen itsFrozen blind merged

end

/-- Directives that add rules only narrow what a schema accepts.  If the schema can be frozen with
the rules, then without them too; the same instances are built, the same plans come out, and what
was refused is refused in the same step, or for a rule before it could be emitted. -/
theorem parse_withRules {checks : Checks} (blind : checks.IgnoreRegistry)
    {registry extended after : Registry} (grown : Registry.Grown registry)
    {directives : List Directive}
    (adding : ∀ directive ∈ directives, ∃ target validators,
      directive = .addBehavior target validators)
    (applied : registry.apply directives = .ok extended)
    (frozenAfter : extended.freeze = .ok after) :
    ∃ before, registry.freeze = .ok before ∧
      (∀ raw, after.structural raw = before.structural raw) ∧
      ∀ sources policies,
        (∀ plan, parse checks after sources policies = .ok plan →
          parse checks before sources policies = .ok plan) ∧
        (∀ plan, parse checks before sources policies = .ok plan →
          parse checks after sources policies = .ok plan ∨
            ∃ broken, parse checks after sources policies = .error (.semantic broken)) ∧
        ∀ cause, parse checks before sources policies = .error cause →
          ∃ other, parse checks after sources policies = .error other ∧
            (other = cause ∨ (∃ broken, other = .semantic broken) ∧
              ((∃ first, cause = .semantic first) ∨ ∃ late, cause = .emit late)) := by
  have itsGrown : Registry.Grown extended := .apply grown applied
  have adds := Registry.Stricter.of_applyAll adding (Registry.apply_ok_iff.mp applied).2
  obtain ⟨before, frozenBefore⟩ :=
    adds.exists_freeze grown.regular itsGrown.regular.unfrozen frozenAfter
  have narrows := adds.of_freeze frozenBefore frozenAfter
  refine ⟨before, frozenBefore, narrows.structural_eq, ?_⟩
  intro sources policies
  have outcomes := parse_narrows narrows ⟨registry, grown, frozenBefore⟩
    ⟨extended, itsGrown, frozenAfter⟩ blind sources policies
  exact ⟨fun _ => outcomes.was_ok, fun _ => outcomes.of_ok, fun _ => outcomes.of_error⟩

/-- A site with a colour. -/
def colourSchema : List Definition :=
  [(Definition.leaf "colour" .string).withValidator .filled,
    (Definition.composite "site").withOptional "colour" "colour"]

/-- Only colours with a certain letter are left, and then only one. -/
def fewerColours : List Directive :=
  [.addBehavior "colour" [.matching "^r"], .addBehavior "colour" [.oneOf ["blue", "red"]]]

/-- The source of a site with a colour. -/
def colouredSite (colour : String) : List Source :=
  [⟨"site.yaml", .mapping [("colour", .string colour)]⟩]

/-- With the rules a red site is accepted, as it was before, and a site of another colour breaks one
of them. -/
theorem parse_colouredSite :
    ∃ base extended before after plan,
      Registry.register "site" colourSchema = .ok base ∧
      base.apply fewerColours = .ok extended ∧
      base.freeze = .ok before ∧ extended.freeze = .ok after ∧
      parse Checks.none after (colouredSite "red") .empty = .ok plan ∧
      parse Checks.none before (colouredSite "red") .empty = .ok plan ∧
      ∃ broken, parse Checks.none after (colouredSite "green") .empty =
        .error (.semantic broken) := by
  have evaluated : (Registry.register "site" colourSchema).toOption.any (fun base =>
      (base.apply fewerColours).toOption.any fun extended =>
        extended.freeze.toOption.any fun after =>
          (parse Checks.none after (colouredSite "red") .empty).toOption.any fun _ =>
            match parse Checks.none after (colouredSite "green") .empty with
            | .error (.semantic _) => true
            | _ => false) = true := by
    decide +kernel
  obtain ⟨base, registered, applies⟩ := exists_of_any_toOption evaluated
  obtain ⟨extended, applied, freezes⟩ := exists_of_any_toOption applies
  obtain ⟨after, frozenAfter, parses⟩ := exists_of_any_toOption freezes
  obtain ⟨plan, parsed, refuses⟩ := exists_of_any_toOption parses
  have broken : ∃ broken, parse Checks.none after (colouredSite "green") .empty =
      .error (.semantic broken) := by
    split at refuses
    · next broken refused => exact ⟨broken, refused⟩
    · contradiction
  have blind : Checks.none.IgnoreRegistry := fun _ _ _ _ _ => rfl
  have adding : ∀ directive ∈ fewerColours, ∃ target validators,
      directive = .addBehavior target validators := by
    simp [fewerColours]
  obtain ⟨before, frozenBefore, _, same⟩ :=
    parse_withRules blind (.register registered) adding applied frozenAfter
  obtain ⟨accepted, _, _⟩ := same (colouredSite "red") .empty
  exact ⟨base, extended, before, after, plan, registered, applied, frozenBefore, frozenAfter,
    parsed, accepted plan parsed, broken⟩

end Blueprint
