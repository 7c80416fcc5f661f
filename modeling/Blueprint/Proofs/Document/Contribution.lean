import Blueprint.Document.Merge
import Blueprint.Proofs.Document.Content
import Mathlib.Data.List.Pairwise

/-!
# Contributions to one key

Which contributions to a key a policy can combine, and into what.
`combine_answers` relates the step of the merge to this: a value that stands for
the contributions so far takes in a further one exactly if the new one is
compatible with each of them, and then stands for all of them.

Compatibility is a relation between two contributions, yet the step compares the
new one with the combined value only.  That is enough because content agreement is
transitive: the first body of an entry speaks for all others.
-/

namespace Blueprint.Merge

/-- Two mappings that agree on every entry they share. -/
def Joinable (left right : Tree) : Prop :=
  left.shape = .mapping ∧ right.shape = .mapping ∧
    ∀ entry leftBody rightBody, left.get? entry = some leftBody →
      right.get? entry = some rightBody → leftBody.agrees rightBody = true

/-- Two contributions to a key that a policy can combine. -/
def Compatible : Policy → Tree → Tree → Prop
  | .override, _, _ => True
  | .mergeNoOverride, left, right => Joinable left right ∨ left.agrees right = true
  | .mergeUnion, left, right =>
      (left.shape = .sequence ∧ right.shape = .sequence) ∨ Joinable left right ∨
        left.agrees right = true

/-- The mapping that holds exactly the entries of some mappings, each with the body
of the first one that declares it. -/
def IsJoin (parts : List Tree) (whole : Tree) : Prop :=
  ∃ entries, whole = .mapping entries ∧ Entries.Ascending entries ∧
    ∀ entry, Entries.get? entries entry = parts.findSome? (·.get? entry)

/-- What a policy makes of the contributions to a key: the last one, the join of
mappings, the concatenation of sequences, or the first one. -/
def Combination : Policy → List Tree → Tree → Prop
  | .override, parts, whole => parts.getLast? = some whole
  | .mergeNoOverride, parts, whole =>
      if ∀ part ∈ parts, part.shape = .mapping then IsJoin parts whole
      else parts.head? = some whole
  | .mergeUnion, parts, whole =>
      if ∀ part ∈ parts, part.shape = .sequence then
        whole = .sequence (parts.flatMap fun part => part.items?.getD [])
      else if ∀ part ∈ parts, part.shape = .mapping then IsJoin parts whole
      else parts.head? = some whole

theorem IsJoin.unique {parts : List Tree} {whole other : Tree} (isJoin : IsJoin parts whole)
    (otherIsJoin : IsJoin parts other) : whole = other := by
  obtain ⟨entries, rfl, ascending, bodies⟩ := isJoin
  obtain ⟨others, rfl, otherAscending, otherBodies⟩ := otherIsJoin
  have same : ∀ entry, Entries.get? entries entry = Entries.get? others entry :=
    fun entry => (bodies entry).trans (otherBodies entry).symm
  exact congrArg Tree.mapping (ascending.ext otherAscending same)

/-- Contributions have one combination. -/
theorem Combination.unique {policy : Policy} {parts : List Tree} {whole other : Tree}
    (combination : Combination policy parts whole)
    (otherCombination : Combination policy parts other) : whole = other := by
  cases policy with
  | override => exact Option.some.inj (combination.symm.trans otherCombination)
  | mergeNoOverride =>
      rw [Combination] at combination otherCombination
      by_cases mappings : ∀ part ∈ parts, part.shape = .mapping
      · rw [if_pos mappings] at combination otherCombination
        exact combination.unique otherCombination
      · rw [if_neg mappings] at combination otherCombination
        exact Option.some.inj (combination.symm.trans otherCombination)
  | mergeUnion =>
      rw [Combination] at combination otherCombination
      by_cases sequences : ∀ part ∈ parts, part.shape = .sequence
      · rw [if_pos sequences] at combination otherCombination
        exact combination.trans otherCombination.symm
      · rw [if_neg sequences] at combination otherCombination
        by_cases mappings : ∀ part ∈ parts, part.shape = .mapping
        · rw [if_pos mappings] at combination otherCombination
          exact combination.unique otherCombination
        · rw [if_neg mappings] at combination otherCombination
          exact Option.some.inj (combination.symm.trans otherCombination)

/-! ## Compatibility -/

theorem Joinable.symm {left right : Tree} (joinable : Joinable left right) :
    Joinable right left := by
  rcases joinable with ⟨leftShape, rightShape, bodies⟩
  exact ⟨rightShape, leftShape, fun entry rightBody leftBody rightHolds leftHolds =>
    Tree.agrees_symm (bodies entry leftBody rightBody leftHolds rightHolds)⟩

theorem Compatible.symm {policy : Policy} {left right : Tree}
    (compatible : Compatible policy left right) : Compatible policy right left := by
  cases policy with
  | override => trivial
  | mergeNoOverride =>
      rcases compatible with joinable | same
      · exact Or.inl joinable.symm
      · exact Or.inr (Tree.agrees_symm same)
  | mergeUnion =>
      rcases compatible with ⟨leftShape, rightShape⟩ | joinable | same
      · exact Or.inl ⟨rightShape, leftShape⟩
      · exact Or.inr (Or.inl joinable.symm)
      · exact Or.inr (Or.inr (Tree.agrees_symm same))

instance (policy : Policy) : Std.Symm (Compatible policy) :=
  ⟨fun _ _ => Compatible.symm⟩

theorem compatible_of_agrees {policy : Policy} {left right : Tree}
    (same : left.agrees right = true) : Compatible policy left right := by
  cases policy with
  | override => trivial
  | mergeNoOverride => exact Or.inr same
  | mergeUnion => exact Or.inr (Or.inr same)

theorem Compatible.refl (policy : Policy) (tree : Tree) : Compatible policy tree tree :=
  compatible_of_agrees (Tree.agrees_refl tree)

theorem compatible_of_joinable {policy : Policy} {left right : Tree}
    (joinable : Joinable left right) : Compatible policy left right := by
  cases policy with
  | override => trivial
  | mergeNoOverride => exact Or.inl joinable
  | mergeUnion => exact Or.inr (Or.inl joinable)

section Combining

variable {policy : Policy} (combines : policy ≠ .override)

include combines

/-- Contributions that are combined have one shape. -/
theorem Compatible.shape_eq {left right : Tree} (compatible : Compatible policy left right) :
    left.shape = right.shape := by
  cases policy with
  | override => contradiction
  | mergeNoOverride =>
      rcases compatible with ⟨leftShape, rightShape, _⟩ | same
      · rw [leftShape, rightShape]
      · exact Tree.shape_eq_of_agrees same
  | mergeUnion =>
      rcases compatible with ⟨leftShape, rightShape⟩ | ⟨leftShape, rightShape, _⟩ | same
      · rw [leftShape, rightShape]
      · rw [leftShape, rightShape]
      · exact Tree.shape_eq_of_agrees same

/-- Apart from mappings and united sequences, contributions that are combined agree. -/
theorem Compatible.agrees {left right : Tree} (compatible : Compatible policy left right)
    (noMapping : left.shape ≠ .mapping)
    (noSequence : ¬ (policy = .mergeUnion ∧ left.shape = .sequence)) :
    left.agrees right = true := by
  cases policy with
  | override => contradiction
  | mergeNoOverride => exact compatible.resolve_left fun joinable => noMapping joinable.1
  | mergeUnion =>
      have notBoth : ¬ (left.shape = .sequence ∧ right.shape = .sequence) :=
        fun both => noSequence ⟨rfl, both.1⟩
      exact (compatible.resolve_left notBoth).resolve_left fun joinable => noMapping joinable.1

/-- Contributions that are combined agree on the entries they share. -/
theorem Compatible.bodies_agree {left right : Tree} (compatible : Compatible policy left right)
    {entry : String} {leftBody rightBody : Tree} (leftHolds : left.get? entry = some leftBody)
    (rightHolds : right.get? entry = some rightBody) : leftBody.agrees rightBody = true := by
  have noSequence : left.shape ≠ .sequence := by
    intro shape
    cases left with
    | sequence items => simp [Tree.get?, Tree.entries?] at leftHolds
    | number value => cases value <;> simp [Tree.shape] at shape
    | _ => simp [Tree.shape] at shape
  have either : Joinable left right ∨ left.agrees right = true := by
    cases policy with
    | override => contradiction
    | mergeNoOverride => exact compatible
    | mergeUnion => exact compatible.resolve_left fun shapes => noSequence shapes.1
  rcases either with ⟨_, _, bodies⟩ | same
  · exact bodies entry leftBody rightBody leftHolds rightHolds
  · exact Tree.agrees_of_get? same leftHolds rightHolds

end Combining

theorem get?_eq_none_of_shape {tree : Tree} (noMapping : tree.shape ≠ .mapping)
    (entry : String) : tree.get? entry = none := by
  cases tree with
  | mapping entries => exact absurd rfl noMapping
  | _ => rfl

theorem Compatible.of_pairwise {policy : Policy} {parts : List Tree}
    (pairwise : parts.Pairwise (Compatible policy)) {left right : Tree} (leftMember : left ∈ parts)
    (rightMember : right ∈ parts) : Compatible policy left right :=
  List.Pairwise.forall_of_forall (fun part _ => Compatible.refl policy part) pairwise
    leftMember rightMember

/-! ## Joining mappings -/

/-- What joining further entries answers: all entries, those that were there first,
or an entry whose bodies differ. -/
def JoinAnswers (current added : Entries Tree) : Except String (Entries Tree) → Prop
  | .ok joined => Entries.Ascending joined ∧
      (∀ entry, Entries.get? joined entry =
        (Entries.get? current entry).or (Entries.get? added entry)) ∧
      ∀ entry declared body, Entries.get? current entry = some declared →
        Entries.get? added entry = some body → declared.agrees body = true
  | .error entry => ∃ declared body, Entries.get? current entry = some declared ∧
      Entries.get? added entry = some body ∧ declared.agrees body = false

/-- Induction on the added entries: their names are distinct, so what an entry
meets was there before. -/
theorem join_answers {current added : Entries Tree} (currentAscending : Entries.Ascending current)
    (addedAscending : Entries.Ascending added) : JoinAnswers current added (join current added) := by
  induction added generalizing current with
  | nil => exact ⟨currentAscending, by simp, by simp⟩
  | cons head rest ih =>
      rcases head with ⟨name, body⟩
      have restAscending : Entries.Ascending rest := (List.pairwise_cons.mp addedAscending).2
      have absent := addedAscending.get?_rest
      unfold join
      cases held : Entries.get? current name with
      | some declared =>
          dsimp only
          by_cases same : declared.agrees body = true
          · rw [if_pos same]
            have later := ih currentAscending restAscending
            cases outcome : join current rest with
            | ok joined =>
                rw [outcome] at later
                rcases later with ⟨ascending, all, agree⟩
                refine ⟨ascending, ?_, ?_⟩
                · intro entry
                  rw [all, Entries.get?_cons]
                  by_cases here : name = entry
                  · subst here
                    simp [held]
                  · simp [here]
                · intro entry first second firstHeld secondHeld
                  rw [Entries.get?_cons] at secondHeld
                  by_cases here : name = entry
                  · subst here
                    simp only [if_true, Option.some.injEq] at secondHeld
                    rw [held, Option.some.injEq] at firstHeld
                    exact firstHeld ▸ secondHeld ▸ same
                  · rw [if_neg here] at secondHeld
                    exact agree entry first second firstHeld secondHeld
            | error entry =>
                rw [outcome] at later
                rcases later with ⟨first, second, firstHeld, secondHeld, differ⟩
                have different : name ≠ entry := by
                  rintro rfl
                  rw [absent] at secondHeld
                  contradiction
                exact ⟨first, second, firstHeld, by rw [Entries.get?_cons, if_neg different,
                  secondHeld], differ⟩
          · rw [if_neg same]
            exact ⟨declared, body, held, by simp [Entries.get?_cons], by simpa using same⟩
      | none =>
          dsimp only
          have later := ih (currentAscending.insert name body) restAscending
          cases outcome : join (Entries.insert current name body) rest with
          | ok joined =>
              rw [outcome] at later
              rcases later with ⟨ascending, all, agree⟩
              refine ⟨ascending, ?_, ?_⟩
              · intro entry
                rw [all, Entries.get?_insert, Entries.get?_cons]
                by_cases here : name = entry
                · subst here
                  simp [held]
                · simp [here]
              · intro entry first second firstHeld secondHeld
                have different : name ≠ entry := by
                  rintro rfl
                  rw [held] at firstHeld
                  contradiction
                rw [Entries.get?_cons, if_neg different] at secondHeld
                apply agree entry first second _ secondHeld
                rw [Entries.get?_insert, if_neg different, firstHeld]
          | error entry =>
              rw [outcome] at later
              rcases later with ⟨first, second, firstHeld, secondHeld, differ⟩
              have different : name ≠ entry := by
                rintro rfl
                rw [absent] at secondHeld
                contradiction
              rw [Entries.get?_insert, if_neg different] at firstHeld
              exact ⟨first, second, firstHeld, by rw [Entries.get?_cons, if_neg different,
                secondHeld], differ⟩

/-! ## Combining -/

theorem combine_mappings {policy : Policy} (combines : policy ≠ .override)
    (current added : List (String × Tree)) :
    combine policy (.mapping current) (.mapping added) =
      match join current added with
      | .ok joined => .ok (.mapping joined)
      | .error entry => .error (some entry) := by
  cases policy with
  | override => contradiction
  | mergeNoOverride => rfl
  | mergeUnion => rfl

/-- Apart from mappings and united sequences, a contribution must agree. -/
theorem combine_others {policy : Policy} {existing incoming : Tree} (combines : policy ≠ .override)
    (noMappings : ¬ (existing.shape = .mapping ∧ incoming.shape = .mapping))
    (noSequences : ¬ (policy = .mergeUnion ∧ existing.shape = .sequence ∧
      incoming.shape = .sequence)) :
    combine policy existing incoming =
      if existing.agrees incoming then .ok existing else .error none := by
  unfold combine
  split
  · contradiction
  · exact absurd ⟨rfl, rfl, rfl⟩ noSequences
  · exact absurd ⟨rfl, rfl⟩ noMappings
  · rfl

section Combining

variable {policy : Policy} (combines : policy ≠ .override) {first : Tree} {rest : List Tree}
  (pairwise : (first :: rest).Pairwise (Compatible policy))

include combines pairwise

theorem forall_shape_iff (shape : Shape) :
    (∀ part ∈ first :: rest, part.shape = shape) ↔ first.shape = shape := by
  constructor
  · intro all
    exact all first List.mem_cons_self
  · intro here part member
    rw [← here]
    exact (Compatible.of_pairwise pairwise member List.mem_cons_self).shape_eq combines

theorem combination_mapping_iff (mapping : first.shape = .mapping) (whole : Tree) :
    Combination policy (first :: rest) whole ↔ IsJoin (first :: rest) whole := by
  have shapes := forall_shape_iff combines pairwise
  cases policy with
  | override => contradiction
  | mergeNoOverride => rw [Combination, if_pos ((shapes _).mpr mapping)]
  | mergeUnion =>
      have noSequence : ¬ ∀ part ∈ first :: rest, part.shape = .sequence := by
        rw [shapes, mapping]
        decide
      rw [Combination, if_neg noSequence, if_pos ((shapes _).mpr mapping)]

theorem combination_other_iff (noMapping : first.shape ≠ .mapping)
    (noSequence : ¬ (policy = .mergeUnion ∧ first.shape = .sequence)) (whole : Tree) :
    Combination policy (first :: rest) whole ↔ first = whole := by
  have shapes := forall_shape_iff combines pairwise
  have noMappings : ¬ ∀ part ∈ first :: rest, part.shape = .mapping := by rwa [shapes]
  cases policy with
  | override => contradiction
  | mergeNoOverride =>
      rw [Combination, if_neg noMappings, List.head?_cons, Option.some.injEq]
  | mergeUnion =>
      have noSequences : ¬ ∀ part ∈ first :: rest, part.shape = .sequence := by
        rw [shapes]
        exact fun shape => noSequence ⟨rfl, shape⟩
      rw [Combination, if_neg noSequences, if_neg noMappings, List.head?_cons, Option.some.injEq]

end Combining

/-- Under a policy that combines, a value holds what the first part that declares an entry
holds there. -/
theorem Combination.get?_eq {policy : Policy} (combines : policy ≠ .override) {parts : List Tree}
    (nonempty : parts ≠ []) (pairwise : parts.Pairwise (Compatible policy)) {whole : Tree}
    (combination : Combination policy parts whole) (entry : String) :
    whole.get? entry = parts.findSome? (·.get? entry) := by
  obtain ⟨first, rest, rfl⟩ := List.exists_cons_of_ne_nil nonempty
  by_cases mapping : first.shape = .mapping
  · obtain ⟨entries, rfl, _, bodies⟩ :=
      (combination_mapping_iff combines pairwise mapping whole).mp combination
    exact bodies entry
  · have noParts : ∀ part ∈ first :: rest, part.get? entry = none := by
      intro part member
      apply get?_eq_none_of_shape
      rw [(forall_shape_iff combines pairwise first.shape).mpr rfl part member]
      exact mapping
    rw [List.findSome?_eq_none_iff.mpr noParts]
    by_cases united : policy = .mergeUnion ∧ first.shape = .sequence
    · rcases united with ⟨rfl, sequence⟩
      rw [Combination, if_pos ((forall_shape_iff combines pairwise .sequence).mpr sequence)]
        at combination
      rw [combination]
      rfl
    · obtain rfl := (combination_other_iff combines pairwise mapping united whole).mp combination
      exact noParts first List.mem_cons_self

/-- What combining a value for some parts with a further one answers. -/
def CombineAnswers (policy : Policy) (parts : List Tree) (incoming : Tree) :
    Except (Option String) Tree → Prop
  | .ok whole => (∀ part ∈ parts, Compatible policy part incoming) ∧
      Combination policy (parts ++ [incoming]) whole
  | .error _ => ∃ part ∈ parts, ¬ Compatible policy part incoming

theorem pairwise_concat {policy : Policy} {parts : List Tree} {incoming : Tree}
    (pairwise : parts.Pairwise (Compatible policy))
    (compatible : ∀ part ∈ parts, Compatible policy part incoming) :
    (parts ++ [incoming]).Pairwise (Compatible policy) := by
  have each : ∀ part ∈ parts, ∀ other ∈ [incoming], Compatible policy part other := by
    intro part member other isOther
    rw [List.mem_singleton.mp isOther]
    exact compatible part member
  exact List.pairwise_append.mpr ⟨pairwise, List.pairwise_singleton _ _, each⟩

theorem eq_mapping_of_shape {tree : Tree} (shape : tree.shape = .mapping) :
    ∃ entries, tree = .mapping entries := by
  cases tree with
  | mapping entries => exact ⟨entries, rfl⟩
  | number value => cases value <;> simp [Tree.shape] at shape
  | _ => simp [Tree.shape] at shape

theorem eq_sequence_of_shape {tree : Tree} (shape : tree.shape = .sequence) :
    ∃ items, tree = .sequence items := by
  cases tree with
  | sequence items => exact ⟨items, rfl⟩
  | number value => cases value <;> simp [Tree.shape] at shape
  | _ => simp [Tree.shape] at shape

theorem eq_null_of_shape {tree : Tree} (shape : tree.shape = .null) : tree = .null := by
  cases tree with
  | null => rfl
  | number value => cases value <;> simp [Tree.shape] at shape
  | _ => simp [Tree.shape] at shape

/-- A join takes in a further mapping that agrees with each of its parts. -/
theorem combine_answers_mapping {policy : Policy} (combines : policy ≠ .override)
    {first incoming whole : Tree} {rest : List Tree}
    (pairwise : (first :: rest).Pairwise (Compatible policy)) (mapping : first.shape = .mapping)
    (ordered : incoming.Ordered) (isJoin : IsJoin (first :: rest) whole) :
    CombineAnswers policy (first :: rest) incoming (combine policy whole incoming) := by
  rcases isJoin with ⟨current, rfl, ascending, bodies⟩
  by_cases incomingShape : incoming.shape = .mapping
  · obtain ⟨added, rfl⟩ := eq_mapping_of_shape incomingShape
    have answers := join_answers ascending ordered.1
    have shapes := (forall_shape_iff combines pairwise .mapping).mpr mapping
    rw [combine_mappings combines]
    cases outcome : join current added with
    | ok joined =>
        rw [outcome] at answers
        rcases answers with ⟨joinedAscending, all, agree⟩
        have compatible : ∀ part ∈ first :: rest, Compatible policy part (.mapping added) := by
          intro part member
          have agrees : ∀ entry partBody body, part.get? entry = some partBody →
              (Tree.mapping added).get? entry = some body → partBody.agrees body = true := by
            intro entry partBody body partHolds holds
            -- The body in the join comes from the first part that has the entry.
            obtain ⟨declared, found⟩ : ∃ declared,
                (first :: rest).findSome? (·.get? entry) = some declared := by
              rw [← Option.isSome_iff_exists, List.findSome?_isSome_iff]
              exact ⟨part, member, by simp [partHolds]⟩
            obtain ⟨origin, originMember, originHolds⟩ := List.exists_of_findSome?_eq_some found
            have same := (Compatible.of_pairwise pairwise member originMember).bodies_agree
              combines partHolds originHolds
            have origin := agree entry declared body ((bodies entry).trans found) holds
            exact Tree.agrees_trans same origin
          exact compatible_of_joinable ⟨shapes part member, rfl, agrees⟩
        have longer := pairwise_concat pairwise compatible
        have joins : ∀ entry, Entries.get? joined entry =
            ((first :: rest) ++ [Tree.mapping added]).findSome? (·.get? entry) := by
          intro entry
          have split : ((first :: rest) ++ [Tree.mapping added]).findSome? (·.get? entry) =
              ((first :: rest).findSome? (·.get? entry)).or (Entries.get? added entry) := by
            rw [List.findSome?_append]
            simp [Tree.get?, Tree.entries?]
          rw [all, bodies]
          exact split.symm
        constructor
        · exact compatible
        · apply (combination_mapping_iff combines longer mapping _).mpr
          exact ⟨joined, rfl, joinedAscending, joins⟩
    | error entry =>
        rw [outcome] at answers
        rcases answers with ⟨declared, body, declaredHeld, bodyHeld, differ⟩
        rw [bodies] at declaredHeld
        obtain ⟨origin, originMember, originHolds⟩ :=
          List.exists_of_findSome?_eq_some declaredHeld
        have incompatible : ¬ Compatible policy origin (.mapping added) := by
          intro compatible
          have same := compatible.bodies_agree combines originHolds bodyHeld
          rw [differ] at same
          contradiction
        exact ⟨origin, originMember, incompatible⟩
  · have different : ¬ Compatible policy first incoming := fun compatible =>
      incomingShape ((compatible.shape_eq combines).symm.trans mapping)
    rw [combine_others combines (fun both => incomingShape both.2) (by simp [Tree.shape])]
    by_cases same : (Tree.mapping current).agrees incoming = true
    · exact absurd (Tree.shape_eq_of_agrees same).symm incomingShape
    · rw [if_neg same]
      exact ⟨first, List.mem_cons_self, different⟩

/-- United sequences take in a further sequence. -/
theorem combine_answers_sequence {first incoming whole : Tree} {rest : List Tree}
    (pairwise : (first :: rest).Pairwise (Compatible .mergeUnion))
    (sequence : first.shape = .sequence) (combination : Combination .mergeUnion (first :: rest) whole) :
    CombineAnswers .mergeUnion (first :: rest) incoming (combine .mergeUnion whole incoming) := by
  have combines : Policy.mergeUnion ≠ .override := by decide
  have shapes := (forall_shape_iff combines pairwise .sequence).mpr sequence
  rw [Combination, if_pos shapes] at combination
  subst combination
  by_cases incomingShape : incoming.shape = .sequence
  · obtain ⟨added, rfl⟩ := eq_sequence_of_shape incomingShape
    have compatible : ∀ part ∈ first :: rest, Compatible .mergeUnion part (.sequence added) :=
      fun part member => Or.inl ⟨shapes part member, rfl⟩
    have longer : ∀ part ∈ first :: rest ++ [.sequence added], part.shape = .sequence :=
      (forall_shape_iff combines (pairwise_concat pairwise compatible) .sequence).mpr sequence
    constructor
    · exact compatible
    · rw [Combination, if_pos longer, List.flatMap_append]
      simp [Tree.items?]
  · have different : ¬ Compatible .mergeUnion first incoming := fun compatible =>
      incomingShape ((compatible.shape_eq combines).symm.trans sequence)
    rw [combine_others combines (by simp [Tree.shape]) (fun both => incomingShape both.2.2)]
    split
    · next same => exact absurd (Tree.shape_eq_of_agrees same).symm incomingShape
    · exact ⟨first, List.mem_cons_self, different⟩

/-- Any other first contribution stands for all that agree with it. -/
theorem combine_answers_other {policy : Policy} (combines : policy ≠ .override)
    {first incoming : Tree} {rest : List Tree}
    (pairwise : (first :: rest).Pairwise (Compatible policy)) (noMapping : first.shape ≠ .mapping)
    (noSequence : ¬ (policy = .mergeUnion ∧ first.shape = .sequence)) :
    CombineAnswers policy (first :: rest) incoming (combine policy first incoming) := by
  have agrees_of_compatible : ∀ {other}, Compatible policy first other →
      first.agrees other = true :=
    fun compatible => compatible.agrees combines noMapping noSequence
  rw [combine_others combines (fun both => noMapping both.1)
    (fun both => noSequence ⟨both.1, both.2.1⟩)]
  split
  · next same =>
      have compatible : ∀ part ∈ first :: rest, Compatible policy part incoming := by
        intro part member
        have agreed := agrees_of_compatible
          (Compatible.of_pairwise pairwise List.mem_cons_self member)
        exact compatible_of_agrees (Tree.agrees_trans (Tree.agrees_symm agreed) same)
      exact ⟨compatible, (combination_other_iff combines (pairwise_concat pairwise compatible)
        noMapping noSequence first).mpr rfl⟩
  · next differ =>
      exact ⟨first, List.mem_cons_self, fun compatible => differ (agrees_of_compatible compatible)⟩

/-- A value stands for itself. -/
theorem combination_singleton (policy : Policy) {value : Tree} (ordered : value.Ordered) :
    Combination policy [value] value := by
  by_cases combines : policy = .override
  · subst combines
    rfl
  · have pairwise := List.pairwise_singleton (Compatible policy) value
    by_cases mapping : value.shape = .mapping
    · rw [combination_mapping_iff combines pairwise mapping]
      obtain ⟨entries, rfl⟩ := eq_mapping_of_shape mapping
      exact ⟨entries, rfl, ordered.1, fun entry => by simp [Tree.get?, Tree.entries?]⟩
    · by_cases united : policy = .mergeUnion ∧ value.shape = .sequence
      · rcases united with ⟨rfl, sequence⟩
        obtain ⟨items, rfl⟩ := eq_sequence_of_shape sequence
        simp [Combination, Tree.items?, Tree.shape]
      · rw [combination_other_iff combines pairwise mapping united]

/-- The step of a merge at one key: a value for compatible parts takes in a further
contribution exactly if that is compatible with each part. -/
theorem combine_answers {policy : Policy} {parts : List Tree} {incoming whole : Tree}
    (nonempty : parts ≠ []) (pairwise : parts.Pairwise (Compatible policy))
    (ordered : incoming.Ordered) (combination : Combination policy parts whole) :
    CombineAnswers policy parts incoming (combine policy whole incoming) := by
  by_cases combines : policy = .override
  · subst combines
    exact ⟨fun _ _ => trivial, List.getLast?_concat⟩
  · obtain ⟨first, rest, rfl⟩ := List.exists_cons_of_ne_nil nonempty
    by_cases mapping : first.shape = .mapping
    · exact combine_answers_mapping combines pairwise mapping ordered
        ((combination_mapping_iff combines pairwise mapping whole).mp combination)
    · by_cases united : policy = .mergeUnion ∧ first.shape = .sequence
      · rcases united with ⟨rfl, sequence⟩
        exact combine_answers_sequence pairwise sequence combination
      · obtain rfl := (combination_other_iff combines pairwise mapping united whole).mp combination
        exact combine_answers_other combines pairwise mapping united

end Blueprint.Merge
