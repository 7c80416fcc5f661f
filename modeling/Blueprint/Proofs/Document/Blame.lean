import Blueprint.Proofs.Document.Merging

/-!
# Whom a merge blames

A merge stops at the first document that does not merge with those before it, at the first of its
keys that is in conflict and, if only mappings were contributed to that key, at their first entry
with different bodies.  `Blames` says which error names which documents for such a conflict, in terms
of the contributions alone, and `merge_blames` that a merge answers no other error.

The document that declared an entry first is looked up among the recorded owners.  The invariant of
the merge keeps the records equal to the first declarations, so this look-up always finds one.
-/

namespace Blueprint

namespace Source

/-- What a document declares as an entry of a key. -/
def body? (source : Source) (key entry : String) : Option Tree :=
  (source.contribution? key).bind (·.get? entry)

end Source

namespace Merge

/-- A document contributes to a key what does not go with an earlier contribution. -/
def Conflicts (table : PolicyTable) (before : List Source) (source : Source) (key : String) :
    Prop :=
  ∃ value, source.contribution? key = some value ∧
    ∃ part ∈ contributions before key, ¬ Compatible (table.policyFor key) part value

/-- A document declares an entry of a key otherwise than an earlier one does. -/
def Redeclares (before : List Source) (source : Source) (key entry : String) : Prop :=
  ∃ body, source.body? key entry = some body ∧
    ∃ earlier ∈ before, ∃ declared, earlier.body? key entry = some declared ∧
      declared.agrees body = false

/-- The documents that contribute to a key, in order. -/
def contributors (sources : List Source) (key : String) : List String :=
  (sources.filter fun source => (source.contribution? key).isSome).map Source.id

/-- What a conflict at a key is about: the least entry that is declared otherwise, or the
contributions as a whole if not all of them are mappings. -/
def IsAbout (before : List Source) (source : Source) (key : String) : Option String → Prop
  | some entry => Redeclares before source key entry ∧
      ∀ other, Redeclares before source key other → entry ≤ other
  | none => ∃ part ∈ contributions (before ++ [source]) key, part.shape ≠ .mapping

/-- The owner that is recorded for an entry of a key once some documents are merged. -/
def recordedOwner? (table : PolicyTable) (sources : List Source) (key entry : String) :
    Option String :=
  match addSources table ∅ sources with
  | .error _ => none
  | .ok state => (state.get? key).bind fun slot => slot.owners.get? entry

/-- The error for a document that conflicts with earlier ones at a key. -/
inductive Blames (table : PolicyTable) (before : List Source) (source : Source) (key : String) :
    MergeError → Prop
  | entry {entry owner declared body} (strict : table.policyFor key = .mergeNoOverride)
      (about : IsAbout before source key (some entry))
      (first : before.find? (fun earlier => (earlier.body? key entry).isSome) = some owner)
      (recorded : recordedOwner? table before key entry = some owner.id)
      (was : owner.body? key entry = some declared) (is : source.body? key entry = some body)
      (differ : declared.agrees body = false) :
      Blames table before source key
        (.duplicateDefinition key (some entry) [owner.id, source.id])
  | whole (strict : table.policyFor key = .mergeNoOverride) (about : IsAbout before source key none) :
      Blames table before source key
        (.duplicateDefinition key none (contributors (before ++ [source]) key))
  | union {clash} (united : table.policyFor key = .mergeUnion)
      (about : IsAbout before source key clash) :
      Blames table before source key
        (.unionConflict key clash (contributors (before ++ [source]) key))

/-! ## Where a merge stops -/

/-- Documents are added up to the first one that fails. -/
theorem addSources_error {table : PolicyTable} {state : Dict Slot} {sources : List Source}
    {cause : MergeError} (failed : addSources table state sources = .error cause) :
    ∃ before source after middle, sources = before ++ source :: after ∧
      addSources table state before = .ok middle ∧ addSource table middle source = .error cause := by
  induction sources generalizing state with
  | nil => contradiction
  | cons source rest ih =>
      rw [addSources] at failed
      cases outcome : addSource table state source with
      | error reason =>
          rw [outcome] at failed
          cases failed
          exact ⟨[], source, rest, state, rfl, rfl, outcome⟩
      | ok next =>
          rw [outcome] at failed
          rcases ih failed with ⟨before, failing, after, middle, rfl, passed, fails⟩
          refine ⟨source :: before, failing, after, middle, rfl, ?_, fails⟩
          rw [addSources, outcome]
          exact passed

/-- The entries of a document are added up to the first one that fails. -/
theorem contributeAll_error {table : PolicyTable} {document : String} {state : Dict Slot}
    {entries : Entries Tree} {cause : MergeError}
    (failed : contributeAll table document state entries = .error cause) :
    ∃ earlier key value later middle, entries = earlier ++ (key, value) :: later ∧
      contributeAll table document state earlier = .ok middle ∧
      contribute table document middle key value = .error cause := by
  induction entries generalizing state with
  | nil => contradiction
  | cons entry rest ih =>
      rcases entry with ⟨key, value⟩
      rw [contributeAll] at failed
      cases outcome : contribute table document state key value with
      | error reason =>
          rw [outcome] at failed
          cases failed
          exact ⟨[], key, value, rest, state, rfl, rfl, outcome⟩
      | ok next =>
          rw [outcome] at failed
          rcases ih failed with ⟨earlier, name, failing, later, middle, rfl, passed, fails⟩
          refine ⟨(key, value) :: earlier, name, failing, later, middle, rfl, ?_, fails⟩
          rw [contributeAll, outcome]
          exact passed

theorem contribute_error {table : PolicyTable} {document key : String} {state : Dict Slot}
    {value : Tree} {cause : MergeError}
    (failed : contribute table document state key value = .error cause) :
    value.isNull = false ∧ ∃ slot clash, state.get? key = some slot ∧
      combine (table.policyFor key) slot.value value = .error clash ∧
      cause = blame (table.policyFor key) key document slot clash := by
  unfold contribute at failed
  split at failed
  · contradiction
  · next given =>
      dsimp only at failed
      split at failed
      · contradiction
      · next slot held =>
          split at failed
          · contradiction
          · next clash clashes =>
              cases failed
              exact ⟨by simpa using given, slot, clash, held, clashes, rfl⟩

/-- The entry at which joining fails is the least one with different bodies. -/
theorem join_error_least {current added : Entries Tree} {entry : String}
    (ascending : added.Ascending) (failed : join current added = .error entry) {other : String}
    {declared body : Tree} (isDeclared : Entries.get? current other = some declared)
    (isGiven : Entries.get? added other = some body) (differ : declared.agrees body = false) :
    entry ≤ other := by
  induction added generalizing current with
  | nil => contradiction
  | cons head rest ih =>
      rcases head with ⟨name, first⟩
      rw [Entries.get?_cons] at isGiven
      by_cases here : name = other
      · subst here
        rw [if_pos rfl, Option.some.injEq] at isGiven
        subst isGiven
        rw [join, isDeclared] at failed
        simp only [differ, Bool.false_eq_true, if_false, Except.error.injEq] at failed
        exact Std.le_of_eq failed.symm
      · rw [if_neg here] at isGiven
        have restAscending : Entries.Ascending rest := (List.pairwise_cons.mp ascending).2
        rw [join] at failed
        split at failed
        · split at failed
          · exact ih restAscending failed isDeclared isGiven
          · cases failed
            have after := (List.pairwise_cons.mp ascending).1 _ (Entries.mem_of_get? isGiven)
            exact Std.le_of_lt after
        · apply ih restAscending failed _ isGiven
          rw [Entries.get?_insert, if_neg here, isDeclared]

/-- Only policies that combine fail: at an entry of mappings, or at values that are not both
mappings. -/
theorem combine_error {policy : Policy} {existing incoming : Tree} {clash : Option String}
    (failed : combine policy existing incoming = .error clash) :
    policy ≠ .override ∧ match clash with
      | some entry => ∃ current added, existing = .mapping current ∧ incoming = .mapping added ∧
          join current added = .error entry
      | none => ¬ (existing.shape = .mapping ∧ incoming.shape = .mapping) := by
  have combines : policy ≠ .override := by
    rintro rfl
    contradiction
  refine ⟨combines, ?_⟩
  by_cases mappings : existing.shape = .mapping ∧ incoming.shape = .mapping
  · obtain ⟨current, rfl⟩ := eq_mapping_of_shape mappings.1
    obtain ⟨added, rfl⟩ := eq_mapping_of_shape mappings.2
    rw [combine_mappings combines] at failed
    split at failed
    · contradiction
    · next entry clashes =>
        cases failed
        exact ⟨current, added, rfl, rfl, clashes⟩
  · unfold combine at failed
    split at failed
    · contradiction
    · contradiction
    · exact absurd ⟨rfl, rfl⟩ mappings
    · split at failed
      · contradiction
      · cases failed
        exact mappings

/-- What combines to a mapping joins mappings. -/
theorem Combination.isJoin {policy : Policy} (combines : policy ≠ .override) {first whole : Tree}
    {rest : List Tree} (pairwise : (first :: rest).Pairwise (Compatible policy))
    (combination : Combination policy (first :: rest) whole) (mapping : whole.shape = .mapping) :
    first.shape = .mapping ∧ IsJoin (first :: rest) whole := by
  by_cases itsMapping : first.shape = .mapping
  · exact ⟨itsMapping, (combination_mapping_iff combines pairwise itsMapping whole).mp combination⟩
  · by_cases united : policy = .mergeUnion ∧ first.shape = .sequence
    · rcases united with ⟨rfl, sequence⟩
      rw [Combination, if_pos ((forall_shape_iff combines pairwise .sequence).mpr sequence)]
        at combination
      rw [combination] at mapping
      contradiction
    · obtain rfl :=
        (combination_other_iff combines pairwise itsMapping united whole).mp combination
      contradiction

/-! ## What documents declare -/

theorem contributors_eq (sources : List Source) (key : String) :
    contributors sources key = (signedContributions sources key).map Prod.fst := by
  induction sources with
  | nil => rfl
  | cons source rest ih =>
      unfold contributors signedContributions at ih ⊢
      cases contributes : source.contribution? key <;> simp [contributes, ih]

theorem findSome?_contributions (sources : List Source) (key entry : String) :
    (contributions sources key).findSome? (·.get? entry) =
      sources.findSome? (·.body? key entry) := by
  induction sources with
  | nil => rfl
  | cons source rest ih =>
      unfold contributions at ih ⊢
      rw [List.filterMap_cons, List.findSome?_cons, Source.body?, ← ih]
      cases source.contribution? key <;> rfl

/-- The first document that declares an entry is the first with a body for it. -/
theorem declarer?_signed (sources : List Source) (key entry : String) :
    (declarer? (signedContributions sources key) entry).map Prod.fst =
      (sources.find? fun source => (source.body? key entry).isSome).map Source.id := by
  induction sources with
  | nil => rfl
  | cons source rest ih =>
      have regroup : source :: rest = [source] ++ rest := rfl
      rw [regroup, signedContributions_append, declarer?_append, signedContributions_singleton,
        List.find?_append, Option.map_or, Option.map_or, ih, List.find?_singleton, Source.body?]
      cases source.contribution? key with
      | none => rfl
      | some value =>
          cases declares : value.get? entry <;> simp [declarer?, declares]

/-- The first body is that of the first document that has one. -/
theorem exists_first_of_findSome? {sources : List Source} {key entry : String} {declared : Tree}
    (found : sources.findSome? (·.body? key entry) = some declared) :
    ∃ owner, sources.find? (fun source => (source.body? key entry).isSome) = some owner ∧
      owner.body? key entry = some declared := by
  rw [List.findSome?_eq_some_iff] at found
  rcases found with ⟨before, owner, after, rfl, declares, none⟩
  refine ⟨owner, ?_, declares⟩
  rw [List.find?_eq_some_iff_append]
  exact ⟨by simp [declares], before, after, rfl, fun source member => by simp [none source member]⟩

theorem tracks_of_addSources {table : PolicyTable} {sources : List Source} {state : Dict Slot}
    (ordered : ∀ source ∈ sources, source.tree.Ordered)
    (passed : addSources table ∅ sources = .ok state) :
    Tracks table (signedContributions sources) state := by
  have start : Tracks table (signedContributions []) ∅ := fun key => rfl
  have run := addSources_answers start ordered
  rw [passed] at run
  exact run.2

/-- Where nothing may be overridden, the recorded owner of an entry is the first document that
declares it. -/
theorem recordedOwner?_eq {table : PolicyTable} {sources : List Source} {state : Dict Slot}
    (ordered : ∀ source ∈ sources, source.tree.Ordered)
    (passed : addSources table ∅ sources = .ok state) {key : String}
    (strict : table.policyFor key = .mergeNoOverride) (entry : String) :
    recordedOwner? table sources key entry =
      (sources.find? fun source => (source.body? key entry).isSome).map Source.id := by
  have atKey := tracks_of_addSources ordered passed key
  rw [recordedOwner?, passed, ← declarer?_signed]
  dsimp only
  cases held : state.get? key with
  | none =>
      rw [held] at atKey
      rw [show signedContributions sources key = [] from atKey]
      rfl
  | some slot =>
      rw [held] at atKey
      exact atKey.owners strict entry

section

variable {table : PolicyTable} {before : List Source} {source : Source} {key : String} {slot : Slot}
  {value : Tree}
  (stands : slot.StandsFor (table.policyFor key) (signedContributions before key))
  (combines : table.policyFor key ≠ .override) (isValue : source.contribution? key = some value)

include stands combines

theorem get?_value (entry : String) :
    slot.value.get? entry = before.findSome? (·.body? key entry) := by
  have nonempty : contributions before key ≠ [] := by
    rw [← map_snd_signedContributions]
    simpa using stands.nonempty
  have pairwise := stands.pairwise
  have combination := stands.combination
  rw [map_snd_signedContributions] at pairwise combination
  rw [combination.get?_eq combines nonempty pairwise, findSome?_contributions]

include isValue

/-- An entry is redeclared if it has another body in the combined value. -/
theorem redeclares_iff (entry : String) :
    Redeclares before source key entry ↔ ∃ declared body, slot.value.get? entry = some declared ∧
      value.get? entry = some body ∧ declared.agrees body = false := by
  have isBody : source.body? key entry = value.get? entry := by
    rw [Source.body?, isValue, Option.bind_some]
  unfold Redeclares
  rw [isBody, get?_value stands combines]
  constructor
  · rintro ⟨body, isGiven, earlier, member, other, isDeclared, differ⟩
    obtain ⟨part, contributes, holds⟩ := Option.bind_eq_some_iff.mp isDeclared
    obtain ⟨declared, found⟩ : ∃ declared,
        before.findSome? (·.body? key entry) = some declared := by
      rw [← Option.isSome_iff_exists, List.findSome?_isSome_iff]
      exact ⟨earlier, member, by simp [isDeclared]⟩
    refine ⟨declared, body, found, isGiven, ?_⟩
    by_contra same
    rw [Bool.not_eq_false] at same
    rw [← findSome?_contributions] at found
    obtain ⟨origin, isOrigin, originHolds⟩ := List.exists_of_findSome?_eq_some found
    have pairwise := stands.pairwise
    rw [map_snd_signedContributions] at pairwise
    have isPart : part ∈ contributions before key :=
      List.mem_filterMap.mpr ⟨earlier, member, contributes⟩
    have agreed := (Compatible.of_pairwise pairwise isPart isOrigin).bodies_agree combines holds
      originHolds
    rw [Tree.agrees_trans agreed same] at differ
    contradiction
  · rintro ⟨declared, body, found, isGiven, differ⟩
    obtain ⟨earlier, member, isDeclared⟩ := List.exists_of_findSome?_eq_some found
    exact ⟨body, isGiven, earlier, member, declared, isDeclared, differ⟩

/-- A clash is about the least entry that is redeclared, or about values that are not all
mappings. -/
theorem isAbout_clash (ordered : value.Ordered) {clash : Option String}
    (failed : combine (table.policyFor key) slot.value value = .error clash) :
    IsAbout before source key clash := by
  have place := (combine_error failed).2
  have pairwise := stands.pairwise
  have combination := stands.combination
  rw [map_snd_signedContributions] at pairwise combination
  have nonempty : contributions before key ≠ [] := by
    rw [← map_snd_signedContributions]
    simpa using stands.nonempty
  obtain ⟨first, rest, isFirst⟩ := List.exists_cons_of_ne_nil nonempty
  rw [isFirst] at pairwise combination
  cases clash with
  | some entry =>
      obtain ⟨current, added, isCurrent, rfl, fails⟩ := place
      have redeclared := redeclares_iff stands combines isValue
      obtain ⟨_, _, isJoin, ascending, _⟩ :=
        combination.isJoin combines pairwise (by rw [isCurrent]; rfl)
      rw [isCurrent] at redeclared isJoin
      cases isJoin
      have answers := join_answers ascending ordered.1
      rw [fails] at answers
      constructor
      · exact (redeclared entry).mpr answers
      · intro other otherwise
        obtain ⟨declared, body, isDeclared, isGiven, differ⟩ := (redeclared other).mp otherwise
        exact join_error_least ordered.1 fails isDeclared isGiven differ
  | none =>
      unfold IsAbout
      rw [contributions, List.filterMap_append]
      by_cases mapping : value.shape = .mapping
      · refine ⟨first, List.mem_append_left _ ?_, ?_⟩
        · change first ∈ contributions before key
          rw [isFirst]
          exact List.mem_cons_self
        · intro itsMapping
          obtain ⟨entries, isMapping, _⟩ :=
            (combination_mapping_iff combines pairwise itsMapping _).mp combination
          exact place ⟨by rw [isMapping]; rfl, mapping⟩
      · refine ⟨value, List.mem_append_right _ ?_, mapping⟩
        simp [isValue]

omit combines in
theorem conflicts_of_clash (ordered : value.Ordered) {clash : Option String}
    (failed : combine (table.policyFor key) slot.value value = .error clash) :
    Conflicts table before source key := by
  have answers := combine_answers (by simpa using stands.nonempty) stands.pairwise ordered
    stands.combination
  rw [failed, map_snd_signedContributions] at answers
  exact ⟨value, isValue, answers⟩

omit combines in
theorem documents_concat : slot.documents ++ [source.id] = contributors (before ++ [source]) key := by
  rw [stands.documents, ← contributors_eq]
  simp [contributors, isValue]

/-- The recorded owner of an entry that is redeclared is the first to declare it. -/
theorem exists_owner {entry : String} (strict : table.policyFor key = .mergeNoOverride)
    (redeclared : Redeclares before source key entry) :
    ∃ owner declared body, slot.owner entry = owner.id ∧
      before.find? (fun earlier => (earlier.body? key entry).isSome) = some owner ∧
      owner.body? key entry = some declared ∧ source.body? key entry = some body ∧
      declared.agrees body = false := by
  obtain ⟨declared, body, isDeclared, isGiven, differ⟩ :=
    (redeclares_iff stands combines isValue entry).mp redeclared
  rw [get?_value stands combines] at isDeclared
  obtain ⟨owner, isFirst, was⟩ := exists_first_of_findSome? isDeclared
  have recorded : slot.owners.get? entry = some owner.id := by
    rw [stands.owners strict, declarer?_signed, isFirst]
    rfl
  refine ⟨owner, declared, body, ?_, isFirst, was, ?_, differ⟩
  · rw [Slot.owner, recorded]
    rfl
  · rw [Source.body?, isValue]
    exact isGiven

theorem blames_blame (ordered : value.Ordered)
    (beforeOrdered : ∀ earlier ∈ before, earlier.tree.Ordered) {state : Dict Slot}
    (passed : addSources table ∅ before = .ok state) {clash : Option String}
    (failed : combine (table.policyFor key) slot.value value = .error clash) :
    Blames table before source key
      (blame (table.policyFor key) key source.id slot clash) := by
  have about := isAbout_clash stands combines isValue ordered failed
  have everyone := documents_concat stands isValue
  cases policy : table.policyFor key with
  | override => contradiction
  | mergeUnion =>
      simp only [blame, everyone]
      exact .union policy about
  | mergeNoOverride =>
      cases clash with
      | none =>
          simp only [blame, everyone]
          exact .whole policy about
      | some entry =>
          obtain ⟨owner, declared, body, isOwner, isFirst, was, is, differ⟩ :=
            exists_owner stands combines isValue policy about.1
          have recorded : recordedOwner? table before key entry = some owner.id := by
            rw [recordedOwner?_eq beforeOrdered passed policy, isFirst]
            rfl
          simp only [blame, isOwner]
          exact .entry policy about isFirst recorded was is differ

end

section

variable {table : PolicyTable} {before : List Source} {document key : String} {middle : Dict Slot}
  {earlier : Entries Tree}
  (reached : Tracks table
    (fun key => signedContributions before key ++ entriesContribution document earlier key) middle)
  (ascending : earlier.Ascending)

include reached ascending

/-- What a document adds leaves the slots of other keys as the documents before have left them. -/
theorem standsFor_untouched (other : key ∉ Entries.keys earlier) {slot : Slot}
    (held : middle.get? key = some slot) :
    slot.StandsFor (table.policyFor key) (signedContributions before key) := by
  have stands := reached key
  rw [held] at stands
  dsimp only at stands
  rw [entriesContribution_eq document ascending, Entries.get?_eq_none_iff.mpr other] at stands
  simpa using stands

/-- What a document adds is compatible with what the documents before contribute. -/
theorem compatible_of_added {value part : Tree} (added : (key, value) ∈ earlier)
    (given : value.isNull = false) (isPart : part ∈ contributions before key) :
    Compatible (table.policyFor key) part value := by
  have pairwise := Tracks.pairwise reached key
  have isAdded : entriesContribution document earlier key = [(document, value)] := by
    rw [entriesContribution_eq document ascending, ascending.get?_of_mem added,
      Option.filter_some, given]
    rfl
  rw [isAdded, List.map_append, map_snd_signedContributions] at pairwise
  exact (List.pairwise_append.mp pairwise).2.2 part isPart value (by simp)

end

/-- A document that is a mapping fails at the least key that conflicts with the documents before
it, and the error is the one for this conflict. -/
theorem contributeAll_blames {table : PolicyTable} {before : List Source} {source : Source}
    {state : Dict Slot} {entries : Entries Tree} {cause : MergeError}
    (beforeOrdered : ∀ earlier ∈ before, earlier.tree.Ordered)
    (passed : addSources table ∅ before = .ok state)
    (isMapping : source.tree = .mapping entries) (ordered : source.tree.Ordered)
    (failed : contributeAll table source.id state entries = .error cause) :
    ∃ key, Conflicts table before source key ∧
      (∀ other, Conflicts table before source other → key ≤ other) ∧
      Blames table before source key cause := by
  rw [isMapping] at ordered
  obtain ⟨ascending, values⟩ := ordered
  obtain ⟨earlier, key, value, later, middle, rfl, added, fails⟩ := contributeAll_error failed
  obtain ⟨given, slot, clash, held, clashes, rfl⟩ := contribute_error fails
  obtain ⟨earlierAscending, restAscending, between⟩ := List.pairwise_append.mp ascending
  obtain ⟨laterAbove, _⟩ := List.pairwise_cons.mp restAscending
  rw [Tree.orderedEntries_iff] at values
  have valueOrdered : value.Ordered := values value (by simp [Entries.values])
  have earlierValues : Tree.OrderedEntries earlier := by
    rw [Tree.orderedEntries_iff]
    intro value member
    apply values value
    rw [Entries.values, List.map_append]
    exact List.mem_append_left _ member
  have reached := contributeAll_answers (tracks_of_addSources beforeOrdered passed) source.id
    earlierValues
  rw [added] at reached
  have untouched : key ∉ Entries.keys earlier := by
    intro member
    obtain ⟨entry, isEntry, same⟩ := List.mem_map.mp member
    have isBelow := between entry isEntry (key, value) List.mem_cons_self
    exact String.lt_irrefl key (same ▸ isBelow)
  have stands := standsFor_untouched reached earlierAscending untouched held
  have isValue : source.contribution? key = some value := by
    have found : source.tree.get? key = some value := by
      rw [isMapping]
      exact ascending.get?_of_mem (by simp)
    rw [Source.contribution?, found, Option.filter_some, given]
    rfl
  refine ⟨key, conflicts_of_clash stands isValue valueOrdered clashes, ?_,
    blames_blame stands (combine_error clashes).1 isValue valueOrdered beforeOrdered passed clashes⟩
  rintro other ⟨otherValue, isOther, part, isPart, incompatible⟩
  obtain ⟨found, isSome⟩ := Option.filter_eq_some_iff.mp isOther
  rw [isMapping] at found
  rcases List.mem_append.mp (Entries.mem_of_get? found) with isEarlier | isHere
  · exact absurd (compatible_of_added reached earlierAscending isEarlier (by simpa using isSome)
      isPart) incompatible
  · rcases List.mem_cons.mp isHere with same | isLater
    · exact Std.le_of_eq (congrArg Prod.fst same).symm
    · exact Std.le_of_lt (laterAbove _ isLater)

end Merge

open Merge

/-- Which error a merge answers.  It stops at the first document with which the documents so far do
not merge.  If that is no mapping, it is named.  If it is one, the error is that for the least of
its keys that conflicts with the documents before it, and names the documents that take part in the
conflict. -/
theorem merge_blames (sources : List Source) (table : PolicyTable)
    (ordered : ∀ source ∈ sources, source.tree.Ordered) {cause : MergeError}
    (failed : merge sources table = .error cause) :
    ∃ before source after, sources = before ++ source :: after ∧
      (∃ merged, merge before table = .ok merged) ∧
      (∀ merged, merge (before ++ [source]) table ≠ .ok merged) ∧
      ((source.tree.shape ≠ .mapping ∧ cause = .notAMapping source.id source.tree.shape) ∨
        (source.tree.shape = .mapping ∧ ∃ key, Conflicts table before source key ∧
          (∀ other, Conflicts table before source other → key ≤ other) ∧
          Blames table before source key cause)) := by
  have stops : addSources table ∅ sources = .error cause := by
    unfold merge at failed
    split at failed
    · next reason stops =>
        cases failed
        exact stops
    · contradiction
  obtain ⟨before, source, after, state, rfl, passed, fails⟩ := addSources_error stops
  refine ⟨before, source, after, rfl, ⟨result state, by rw [merge, passed]⟩, ?_, ?_⟩
  · intro merged
    rw [merge, addSources_append, passed]
    dsimp only
    rw [addSources, fails]
    simp
  · have sourceOrdered := ordered source (by simp)
    by_cases mapping : source.tree.shape = .mapping
    · obtain ⟨entries, isMapping⟩ := eq_mapping_of_shape mapping
      have beforeOrdered : ∀ earlier ∈ before, earlier.tree.Ordered :=
        fun earlier member => ordered earlier (List.mem_append_left _ member)
      rw [addSource, isMapping] at fails
      exact .inr ⟨mapping,
        contributeAll_blames beforeOrdered passed isMapping sourceOrdered fails⟩
    · refine .inl ⟨mapping, ?_⟩
      by_cases mergeable : source.Mergeable
      · have isNull := eq_null_of_shape (mergeable.resolve_left mapping)
        rw [addSource, isNull] at fails
        contradiction
      · rw [addSource_unmergeable mergeable] at fails
        cases fails
        rfl

/-- Three documents with types, the last of which declares one otherwise than the second. -/
def typeDocuments : List Source :=
  [⟨"first", .mapping [("types", .mapping [("a", .int 1), ("b", .int 2)])]⟩,
    ⟨"second", .mapping [("types", .mapping [("b", .int 2), ("c", .int 3)])]⟩,
    ⟨"third", .mapping [("tags", .null), ("types", .mapping [("b", .int 2), ("c", .int 4)])]⟩]

/-- The third document is blamed together with the second one, which declared the type, and not
with the first. -/
theorem merge_blames_third :
    let table := PolicyTable.empty.set "types" .mergeNoOverride
    merge typeDocuments table =
        .error (.duplicateDefinition "types" (some "c") ["second", "third"]) ∧
      ∃ before source after, typeDocuments = before ++ source :: after ∧ source.id = "third" ∧
        IsAbout before source "types" (some "c") ∧
        recordedOwner? table before "types" "c" = some "second" := by
  intro table
  have failed : merge typeDocuments table =
      .error (.duplicateDefinition "types" (some "c") ["second", "third"]) := rfl
  have ordered : ∀ source ∈ typeDocuments, source.tree.Ordered := by
    have names : "a" < "b" ∧ "b" < "c" ∧ "tags" < "types" := by decide
    simp only [typeDocuments, Tree.int, Tree.Ordered, Tree.OrderedEntries, Entries.Ascending,
      List.pairwise_cons, List.forall_mem_cons]
    simp [names]
  obtain ⟨before, source, after, split, _, _, outcome⟩ :=
    merge_blames typeDocuments table ordered failed
  refine ⟨failed, before, source, after, split, ?_⟩
  rcases outcome with ⟨_, other⟩ | ⟨_, key, _, _, blames⟩
  · contradiction
  · generalize isError : MergeError.duplicateDefinition "types" (some "c") ["second", "third"] =
      cause at blames
    cases blames with
    | entry strict about isFirst recorded was is differ =>
        simp only [MergeError.duplicateDefinition.injEq, Option.some.injEq, List.cons.injEq,
          and_true] at isError
        obtain ⟨rfl, rfl, isOwner, isThird⟩ := isError
        exact ⟨isThird.symm, about, recorded.trans (congrArg some isOwner.symm)⟩
    | whole => simp at isError
    | union => simp at isError

end Blueprint
