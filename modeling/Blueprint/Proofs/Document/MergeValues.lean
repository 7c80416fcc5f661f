import Blueprint.Document.Merge

/-!
# Merging without names

The state of a merge keeps the documents that contributed to a key for the sake of its
errors.  The values alone are merged by `Merge.amend`, and what comes out on success
depends on the trees of the documents only (`merge_toOption`).

No null comes out of a merge (`merge_filled`), and a single mapping loses its nulls and
nothing else (`merge_single`).
-/

namespace Blueprint

namespace Merge

/-- The values of all keys, without the documents that they are from. -/
def values (state : Dict Slot) : Dict Tree :=
  state.mapValues fun _ slot => slot.value

/-- Add a contribution to the values. -/
def amend (table : PolicyTable) (values : Dict Tree) (key : String) (value : Tree) :
    Option (Dict Tree) :=
  if value.isNull then some values
  else
    match values.get? key with
    | none => some (values.insert key value)
    | some existing =>
        (combine (table.policyFor key) existing value).toOption.map (values.insert key)

/-- Add contributions to the values in order. -/
def amendEntries (table : PolicyTable) (values : Dict Tree) (entries : List (String × Tree)) :
    Option (Dict Tree) :=
  entries.foldlM (fun values entry => amend table values entry.1 entry.2) values

/-- Add what a document contributes to the values. -/
def amendAll (table : PolicyTable) (values : Dict Tree) : Tree → Option (Dict Tree)
  | .mapping entries => amendEntries table values entries
  | .null => some values
  | _ => none

theorem values_empty : values ∅ = ∅ :=
  rfl

theorem get?_values (state : Dict Slot) (key : String) :
    (values state).get? key = (state.get? key).map Slot.value :=
  Dict.get?_mapValues _ _ _

theorem values_insert (state : Dict Slot) (key : String) (slot : Slot) :
    values (state.insert key slot) = (values state).insert key slot.value := by
  apply Dict.ext_get?
  intro other
  simp only [get?_values, Dict.get?_insert]
  split <;> rfl

variable (table : PolicyTable)

theorem contribute_values (document : String) (state : Dict Slot) (key : String) (value : Tree) :
    (contribute table document state key value).toOption.map values =
      amend table (values state) key value := by
  rw [contribute, amend, get?_values]
  by_cases isNull : value.isNull
  · rw [if_pos isNull, if_pos isNull]
    rfl
  · rw [if_neg isNull, if_neg isNull]
    cases state.get? key with
    | none => exact congrArg some (values_insert _ _ _)
    | some slot =>
        dsimp only [Option.map_some]
        cases combine (table.policyFor key) slot.value value with
        | error clash => rfl
        | ok combined => exact congrArg some (values_insert _ _ _)

theorem contributeAll_values (document : String) (entries : List (String × Tree))
    (state : Dict Slot) :
    (contributeAll table document state entries).toOption.map values =
      amendEntries table (values state) entries := by
  induction entries generalizing state with
  | nil => rfl
  | cons entry rest ih =>
      rw [amendEntries, List.foldlM_cons, ← contribute_values table document, contributeAll]
      cases contribute table document state entry.1 entry.2 with
      | error cause => rfl
      | ok next => exact ih next

theorem addSource_values (state : Dict Slot) (source : Source) :
    (addSource table state source).toOption.map values =
      amendAll table (values state) source.tree := by
  obtain ⟨document, tree⟩ := source
  cases tree with
  | mapping entries => exact contributeAll_values table document entries state
  | _ => rfl

theorem addSources_values (sources : List Source) (state : Dict Slot) :
    (addSources table state sources).toOption.map values =
      (sources.map Source.tree).foldlM (amendAll table) (values state) := by
  induction sources generalizing state with
  | nil => rfl
  | cons source rest ih =>
      rw [List.map_cons, List.foldlM_cons, ← addSource_values table, addSources]
      cases addSource table state source with
      | error cause => rfl
      | ok next => exact ih next

/-! ## Nulls -/

/-- Values of which none is null. -/
def Filled (values : Dict Tree) : Prop :=
  ∀ key value, values.get? key = some value → value.isNull = false

variable {table}

theorem Filled.insert {values : Dict Tree} (filled : Filled values) (key : String) {value : Tree}
    (some : value.isNull = false) : Filled (values.insert key value) := by
  intro other held isHeld
  rw [Dict.get?_insert] at isHeld
  split at isHeld
  · cases isHeld
    exact some
  · exact filled other held isHeld

theorem combine_filled {policy : Policy} {existing incoming combined : Tree}
    (first : existing.isNull = false) (second : incoming.isNull = false)
    (agreed : combine policy existing incoming = .ok combined) : combined.isNull = false := by
  unfold combine at agreed
  split at agreed
  · cases agreed
    exact second
  · cases agreed
    rfl
  · split at agreed
    · cases agreed
      rfl
    · contradiction
  · split at agreed
    · cases agreed
      exact first
    · contradiction

theorem amend_filled {values result : Dict Tree} {key : String} {value : Tree}
    (filled : Filled values) (amended : amend table values key value = some result) :
    Filled result := by
  unfold amend at amended
  split at amended
  · cases amended
    exact filled
  · next isSome =>
      have some : value.isNull = false := by simpa using isSome
      split at amended
      · cases amended
        exact filled.insert key some
      · next existing held =>
          obtain ⟨combined, agreed, rfl⟩ := Option.map_eq_some_iff.mp amended
          cases outcome : combine (table.policyFor key) existing value with
          | error clash => simp [outcome, Except.toOption] at agreed
          | ok whole =>
              obtain rfl : whole = combined := by simpa [outcome, Except.toOption] using agreed
              exact filled.insert key (combine_filled (filled key existing held) some outcome)

theorem amendEntries_cons (table : PolicyTable) (values : Dict Tree) (key : String) (value : Tree)
    (rest : List (String × Tree)) :
    amendEntries table values ((key, value) :: rest) =
      (amend table values key value).bind fun values => amendEntries table values rest :=
  rfl

theorem amendEntries_filled {values result : Dict Tree} {entries : List (String × Tree)}
    (filled : Filled values) (amended : amendEntries table values entries = some result) :
    Filled result := by
  induction entries generalizing values with
  | nil =>
      cases amended
      exact filled
  | cons entry rest ih =>
      rw [amendEntries_cons, Option.bind_eq_some_iff] at amended
      obtain ⟨middle, first, others⟩ := amended
      exact ih (amend_filled filled first) others

theorem amendAll_filled {values result : Dict Tree} {tree : Tree} (filled : Filled values)
    (amended : amendAll table values tree = some result) : Filled result := by
  cases tree with
  | mapping entries => exact amendEntries_filled filled amended
  | null =>
      cases amended
      exact filled
  | _ => contradiction

/-- What entries add to values that have none of their keys: themselves without the nulls. -/
theorem amendEntries_fresh (table : PolicyTable) {values : Dict Tree} {entries : Entries Tree}
    (ascending : entries.Ascending) (fresh : ∀ key ∈ entries.keys, values.get? key = none) :
    ∃ result, amendEntries table values entries = some result ∧
      ∀ key, result.get? key =
        (values.get? key).or ((entries.get? key).filter fun value => !value.isNull) := by
  induction entries generalizing values with
  | nil => exact ⟨values, rfl, by simp⟩
  | cons entry rest ih =>
      obtain ⟨name, value⟩ := entry
      have restAscending : Entries.Ascending rest := (List.pairwise_cons.mp ascending).2
      have here : values.get? name = none := fresh name List.mem_cons_self
      have onlyHere : Entries.get? rest name = none := ascending.get?_rest
      rw [amendEntries_cons, amend]
      by_cases isNull : value.isNull
      · rw [if_pos isNull]
        obtain ⟨result, amended, found⟩ :=
          ih restAscending fun key member => fresh key (List.mem_cons_of_mem _ member)
        refine ⟨result, amended, fun key => ?_⟩
        rw [found, Entries.get?_cons]
        by_cases same : name = key
        · subst same
          simp [onlyHere, isNull, Option.filter_some]
        · rw [if_neg same]
      · rw [if_neg isNull, here]
        have later : ∀ key ∈ Entries.keys rest, (values.insert name value).get? key = none := by
          intro key member
          have other : name ≠ key := by
            rintro rfl
            exact absurd member (Entries.get?_eq_none_iff.mp onlyHere)
          rw [Dict.get?_insert, if_neg other]
          exact fresh key (List.mem_cons_of_mem _ member)
        obtain ⟨result, amended, found⟩ := ih restAscending later
        refine ⟨result, amended, fun key => ?_⟩
        rw [found, Dict.get?_insert, Entries.get?_cons]
        by_cases same : name = key
        · subst same
          simp [here, isNull, Option.filter_some]
        · rw [if_neg same, if_neg same]

end Merge

/-- On success a merge gives what the trees of the documents make of each other. -/
theorem merge_toOption (sources : List Source) (table : PolicyTable) :
    (merge sources table).toOption =
      ((sources.map Source.tree).foldlM (Merge.amendAll table) ∅).map fun values =>
        .mapping values.entries := by
  rw [merge, ← Merge.values_empty, ← Merge.addSources_values]
  cases Merge.addSources table ∅ sources <;> rfl

/-- A merge gives a mapping without nulls. -/
theorem merge_filled {sources : List Source} {table : PolicyTable} {merged : Tree}
    (accepted : merge sources table = .ok merged) :
    ∃ values : Dict Tree, merged = .mapping values.entries ∧ Merge.Filled values := by
  have same := merge_toOption sources table
  rw [accepted, Except.toOption, eq_comm, Option.map_eq_some_iff] at same
  obtain ⟨values, amended, rfl⟩ := same
  refine ⟨values, rfl, ?_⟩
  have start : Merge.Filled ∅ := by
    intro key value held
    contradiction
  generalize (∅ : Dict Tree) = first at amended start
  generalize sources.map Source.tree = trees at amended
  clear accepted
  induction trees generalizing first with
  | nil =>
      cases amended
      exact start
  | cons tree rest ih =>
      rw [List.foldlM_cons, Option.bind_eq_bind, Option.bind_eq_some_iff] at amended
      obtain ⟨middle, first, others⟩ := amended
      exact ih middle (Merge.amendAll_filled start first) others

/-- A mapping by itself loses its nulls, whatever the policies. -/
theorem merge_single (id : String) (entries : Dict Tree) (table : PolicyTable) :
    ∃ kept : Dict Tree, merge [⟨id, .mapping entries.entries⟩] table = .ok (.mapping kept.entries) ∧
      ∀ key, kept.get? key = (entries.get? key).filter fun value => !value.isNull := by
  have fresh : ∀ key ∈ entries.entries.keys, (∅ : Dict Tree).get? key = none := fun _ _ => rfl
  obtain ⟨kept, amended, found⟩ := Merge.amendEntries_fresh table entries.ascending fresh
  refine ⟨kept, ?_, fun key => ?_⟩
  · have same := merge_toOption [⟨id, .mapping entries.entries⟩] table
    have trees : ([⟨id, .mapping entries.entries⟩].map Source.tree).foldlM (Merge.amendAll table) ∅ =
        some kept := by
      rw [List.map_singleton, List.foldlM_cons, Merge.amendAll, amended]
      rfl
    rw [trees] at same
    cases outcome : merge [⟨id, .mapping entries.entries⟩] table with
    | error cause => simp [outcome, Except.toOption] at same
    | ok merged =>
        rw [outcome] at same
        exact congrArg Except.ok (Option.some.inj same)
  · rw [found]
    rfl

end Blueprint
