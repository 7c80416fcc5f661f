/-!
# Named values in key order

Documents, definitions and plans hold named parts.  A collection of named parts
is a list of pairs; `Entries.Ascending` says that the names strictly ascend, so
that each name occurs once and equal collections are equal lists.

Look-up and insertion are total on every list.  The laws that need ascending
names say so.
-/

namespace Blueprint

universe u v

/-- Values with their names, in the order in which they are listed. -/
abbrev Entries (α : Type u) := List (String × α)

namespace Entries

variable {α : Type u} {β : Type v}

/-- Names strictly ascend, by code point. -/
def Ascending (entries : Entries α) : Prop :=
  entries.Pairwise fun earlier later => earlier.1 < later.1

instance (entries : Entries α) : Decidable (Ascending entries) :=
  inferInstanceAs (Decidable (entries.Pairwise _))

/-- The names, in order. -/
def keys (entries : Entries α) : List String :=
  entries.map Prod.fst

/-- The values, in order of their names. -/
def values (entries : Entries α) : List α :=
  entries.map Prod.snd

/-- The value under a name. -/
def get? : Entries α → String → Option α
  | [], _ => none
  | (name, value) :: rest, key => if name = key then some value else get? rest key

/-- Whether a name has a value. -/
def contains (entries : Entries α) (key : String) : Bool :=
  (get? entries key).isSome

/-- Put a value under a name, in its place among ascending names.  A value that
stands there already is replaced. -/
def insert : Entries α → String → α → Entries α
  | [], key, value => [(key, value)]
  | (name, old) :: rest, key, value =>
      if key = name then (key, value) :: rest
      else if key < name then (key, value) :: (name, old) :: rest
      else (name, old) :: insert rest key value

/-- Keep the entries whose name passes a test. -/
def filterKeys (entries : Entries α) (keep : String → Bool) : Entries α :=
  entries.filter fun entry => keep entry.1

/-- Drop the entry of a name. -/
def erase (entries : Entries α) (key : String) : Entries α :=
  filterKeys entries (· != key)

/-- Change every value, keeping its name. -/
def mapValues (change : String → α → β) (entries : Entries α) : Entries β :=
  entries.map fun entry => (entry.1, change entry.1 entry.2)

/-- Put several entries in, the last one of a name winning. -/
def insertAll (entries : Entries α) (added : List (String × α)) : Entries α :=
  added.foldl (fun collected entry => insert collected entry.1 entry.2) entries

@[simp]
theorem get?_nil (key : String) : get? ([] : Entries α) key = none :=
  rfl

theorem get?_cons (name key : String) (value : α) (rest : Entries α) :
    get? ((name, value) :: rest) key = if name = key then some value else get? rest key :=
  rfl

/-- Insertion changes what is found under its own name only. -/
theorem get?_insert (entries : Entries α) (key other : String) (value : α) :
    get? (insert entries key value) other =
      if key = other then some value else get? entries other := by
  induction entries with
  | nil => rfl
  | cons entry rest ih =>
      obtain ⟨name, old⟩ := entry
      by_cases same : key = name
      · subst name
        by_cases found : key = other <;> simp [insert, get?_cons, found]
      · by_cases before : key < name
        · simp [insert, same, before, get?_cons]
        · by_cases found : name = other
          · subst other
            simp [insert, same, before, get?_cons]
          · simp [insert, same, before, get?_cons, found, ih]

theorem mem_keys_iff (entries : Entries α) (key : String) :
    key ∈ keys entries ↔ contains entries key = true := by
  induction entries with
  | nil => simp [keys, contains]
  | cons entry rest ih =>
      obtain ⟨name, value⟩ := entry
      by_cases found : name = key
      · simp [keys, contains, get?_cons, found]
      · simp only [keys, contains, List.map_cons, List.mem_cons, get?_cons, found,
          if_false] at ih ⊢
        simp [ih, Ne.symm found]

theorem mem_of_get? {entries : Entries α} {key : String} {value : α}
    (found : get? entries key = some value) : (key, value) ∈ entries := by
  induction entries with
  | nil => simp at found
  | cons entry rest ih =>
      obtain ⟨name, held⟩ := entry
      rw [get?_cons] at found
      split at found
      · next same =>
          cases found
          simp [same]
      · exact List.mem_cons_of_mem _ (ih found)

theorem mem_values_of_get? {entries : Entries α} {key : String} {value : α}
    (found : get? entries key = some value) : value ∈ values entries :=
  List.mem_map.2 ⟨(key, value), mem_of_get? found, rfl⟩

theorem get?_eq_none_iff {entries : Entries α} {key : String} :
    get? entries key = none ↔ key ∉ keys entries := by
  rw [mem_keys_iff, contains, Bool.not_eq_true, Option.isSome_eq_false_iff, Option.isNone_iff_eq_none]

/-- Under ascending names every entry is the one that is found under its name. -/
theorem Ascending.get?_of_mem {entries : Entries α} {key : String} {value : α}
    (ascending : Ascending entries) (member : (key, value) ∈ entries) :
    get? entries key = some value := by
  induction entries with
  | nil => simp at member
  | cons entry rest ih =>
      obtain ⟨name, held⟩ := entry
      obtain ⟨first, others⟩ := List.pairwise_cons.1 ascending
      rw [get?_cons]
      rcases List.mem_cons.1 member with here | later
      · cases here
        simp
      · have different : name ≠ key := fun same =>
          String.lt_irrefl key (same ▸ first (key, value) later)
        rw [if_neg different]
        exact ih others later

/-- Each name of the result is the inserted one or stood there before. -/
theorem mem_insert {entries : Entries α} {key : String} {value : α} {entry : String × α}
    (member : entry ∈ insert entries key value) : entry = (key, value) ∨ entry ∈ entries := by
  induction entries with
  | nil => exact Or.inl (by simpa [insert] using member)
  | cons head rest ih =>
      obtain ⟨name, old⟩ := head
      simp only [insert] at member
      split at member
      · simp only [List.mem_cons] at member ⊢
        rcases member with here | later
        · exact Or.inl here
        · exact Or.inr (Or.inr later)
      · split at member
        · simp only [List.mem_cons] at member ⊢
          exact member
        · simp only [List.mem_cons] at member ⊢
          rcases member with here | later
          · exact Or.inr (Or.inl here)
          · rcases ih later with new | old
            · exact Or.inl new
            · exact Or.inr (Or.inr old)

theorem mem_insertAll {entries : Entries α} {added : List (String × α)} {entry : String × α}
    (member : entry ∈ insertAll entries added) : entry ∈ added ∨ entry ∈ entries := by
  induction added generalizing entries with
  | nil => exact Or.inr member
  | cons first rest ih =>
      rcases ih member with later | member
      · exact Or.inl (List.mem_cons_of_mem _ later)
      · rcases mem_insert member with rfl | before
        · exact Or.inl List.mem_cons_self
        · exact Or.inr before

/-- Insertion keeps names ascending. -/
theorem Ascending.insert {entries : Entries α} (ascending : Ascending entries) (key : String)
    (value : α) : Ascending (insert entries key value) := by
  induction entries with
  | nil => simp [Entries.insert, Ascending]
  | cons entry rest ih =>
      obtain ⟨name, old⟩ := entry
      obtain ⟨first, others⟩ := List.pairwise_cons.1 ascending
      simp only [Entries.insert]
      split
      · next same =>
          subst name
          exact List.pairwise_cons.2 ⟨first, others⟩
      · split
        · next before =>
            refine List.pairwise_cons.2 ⟨?_, ascending⟩
            intro later member
            rcases List.mem_cons.1 member with here | member
            · exact here ▸ before
            · exact String.lt_trans before (first later member)
        · next different notBefore =>
            refine List.pairwise_cons.2 ⟨?_, ih others⟩
            intro later member
            rcases mem_insert member with new | member
            · subst new
              have after : name ≤ key := String.not_lt.1 notBefore
              rcases Classical.em (name < key) with before | notLess
              · exact before
              · exact absurd (String.le_antisymm (String.not_lt.1 notLess) after) different
            · exact first later member

theorem Ascending.filterKeys {entries : Entries α} (ascending : Ascending entries)
    (keep : String → Bool) : Ascending (filterKeys entries keep) :=
  List.Pairwise.filter _ ascending

theorem Ascending.mapValues {entries : Entries α} (ascending : Ascending entries)
    (change : String → α → β) : Ascending (mapValues change entries) := by
  unfold Ascending Entries.mapValues
  rw [List.pairwise_map]
  exact ascending

theorem Ascending.insertAll {entries : Entries α} (ascending : Ascending entries)
    (added : List (String × α)) : Ascending (insertAll entries added) := by
  induction added generalizing entries with
  | nil => exact ascending
  | cons entry rest ih => exact ih (ascending.insert entry.1 entry.2)

theorem Ascending.of_keys {left : Entries α} {right : Entries β} (ascending : Ascending left)
    (same : keys left = keys right) : Ascending right := by
  unfold Ascending at ascending ⊢
  rw [← List.pairwise_map] at ascending ⊢
  unfold keys at same
  rwa [← same]

/-- Entries with the same names have them at the same places. -/
theorem exists_getElem?_of_keys {left : Entries α} {right : Entries β}
    (same : keys left = keys right) {index : Nat} {key : String} {value : α}
    (held : left[index]? = some (key, value)) : ∃ other, right[index]? = some (key, other) := by
  have name : (keys right)[index]? = some key := by
    rw [← same, keys, List.getElem?_map, held]
    rfl
  rw [keys, List.getElem?_map, Option.map_eq_some_iff] at name
  obtain ⟨⟨key, other⟩, isEntry, rfl⟩ := name
  exact ⟨other, isEntry⟩

@[simp]
theorem length_keys (entries : Entries α) : (keys entries).length = entries.length :=
  List.length_map _

@[simp]
theorem keys_mapValues (change : String → α → β) (entries : Entries α) :
    keys (mapValues change entries) = keys entries := by
  unfold keys mapValues
  rw [List.map_map]
  rfl

theorem mem_mapValues_iff {change : String → α → β} {entries : Entries α} {key : String}
    {value : β} :
    (key, value) ∈ mapValues change entries ↔
      ∃ held, (key, held) ∈ entries ∧ value = change key held := by
  unfold mapValues
  rw [List.mem_map]
  constructor
  · rintro ⟨⟨key, held⟩, member, same⟩
    cases same
    exact ⟨held, member, rfl⟩
  · rintro ⟨held, member, rfl⟩
    exact ⟨(key, held), member, rfl⟩

theorem get?_mapValues (change : String → α → β) (entries : Entries α) (key : String) :
    get? (mapValues change entries) key = (get? entries key).map (change key) := by
  induction entries with
  | nil => rfl
  | cons entry rest ih =>
      obtain ⟨name, value⟩ := entry
      by_cases found : name = key
      · subst name
        simp [mapValues, get?_cons]
      · simpa [mapValues, get?_cons, found] using ih

theorem get?_filterKeys (entries : Entries α) (keep : String → Bool) (key : String) :
    get? (filterKeys entries keep) key = if keep key then get? entries key else none := by
  induction entries with
  | nil => simp [filterKeys]
  | cons entry rest ih =>
      obtain ⟨name, value⟩ := entry
      simp only [filterKeys] at ih ⊢
      by_cases kept : keep name = true
      · by_cases found : name = key
        · subst name
          simp [get?_cons, kept]
        · simp [get?_cons, kept, found, ih]
      · by_cases found : name = key
        · subst name
          simp [ih, kept]
        · simp [get?_cons, kept, found, ih]

/-- Under ascending names nothing below the first name is found. -/
theorem Ascending.get?_eq_none_of_lt {name key : String} {value : α} {rest : Entries α}
    (ascending : Ascending ((name, value) :: rest)) (before : key < name) :
    get? ((name, value) :: rest) key = none := by
  have absent : ∀ entry ∈ (name, value) :: rest, entry.1 ≠ key := by
    intro entry member same
    obtain ⟨first, _⟩ := List.pairwise_cons.1 ascending
    rcases List.mem_cons.1 member with here | later
    · subst here
      have here : name = key := same
      exact String.lt_irrefl key (here ▸ before)
    · have beyond := String.lt_trans before (first entry later)
      rw [same] at beyond
      exact String.lt_irrefl key beyond
  revert absent
  generalize (name, value) :: rest = entries
  intro absent
  induction entries with
  | nil => rfl
  | cons entry rest ih =>
      obtain ⟨other, held⟩ := entry
      have different : other ≠ key := absent (other, held) (by simp)
      rw [get?_cons, if_neg different]
      exact ih fun entry member => absent entry (by simp [member])

/-- The first of ascending names is not found among the others. -/
theorem Ascending.get?_rest {name : String} {value : α} {rest : Entries α}
    (ascending : Ascending ((name, value) :: rest)) : get? rest name = none := by
  rw [get?_eq_none_iff]
  intro member
  obtain ⟨entry, isEntry, same⟩ := List.mem_map.mp member
  have before := (List.pairwise_cons.mp ascending).1 entry isEntry
  exact String.lt_irrefl name (same ▸ before)

/-- Several distinct names are put in beside what stands under others. -/
theorem get?_insertAll {added : Entries α} (distinct : (keys added).Nodup) (entries : Entries α)
    (key : String) :
    get? (insertAll entries added) key = (get? added key).or (get? entries key) := by
  induction added generalizing entries with
  | nil => rfl
  | cons entry rest ih =>
      obtain ⟨name, value⟩ := entry
      obtain ⟨notLater, others⟩ := List.nodup_cons.mp distinct
      have later := ih others (insert entries name value)
      rw [get?_insert] at later
      rw [get?_cons]
      refine later.trans ?_
      by_cases here : name = key
      · subst here
        simp [get?_eq_none_iff.mpr notLater]
      · simp [here]

theorem Ascending.nodup_keys {entries : Entries α} (ascending : Ascending entries) :
    (keys entries).Nodup :=
  List.Pairwise.map Prod.fst (fun _ _ before same => String.lt_irrefl _ (same ▸ before)) ascending

/-- Several ascending names are put in beside what stands under others. -/
theorem Ascending.get?_insertAll {added : Entries α} (ascending : Ascending added)
    (entries : Entries α) (key : String) :
    get? (Entries.insertAll entries added) key = (get? added key).or (get? entries key) :=
  Entries.get?_insertAll ascending.nodup_keys entries key

/-- Entries with ascending names are determined by what is found in them. -/
theorem Ascending.ext {left right : Entries α} (leftAscending : Ascending left)
    (rightAscending : Ascending right) (same : ∀ key, get? left key = get? right key) :
    left = right := by
  induction left generalizing right with
  | nil =>
      cases right with
      | nil => rfl
      | cons entry rest =>
          obtain ⟨name, value⟩ := entry
          have found := same name
          simp [get?_cons] at found
  | cons entry rest ih =>
      obtain ⟨name, value⟩ := entry
      cases right with
      | nil =>
          have found := same name
          simp [get?_cons] at found
      | cons other others =>
          obtain ⟨otherName, otherValue⟩ := other
          have names : name = otherName := by
            rcases Classical.em (name < otherName) with before | notBefore
            · have found := same name
              rw [rightAscending.get?_eq_none_of_lt before] at found
              simp [get?_cons] at found
            · rcases Classical.em (otherName < name) with after | notAfter
              · have found := same otherName
                rw [leftAscending.get?_eq_none_of_lt after] at found
                simp [get?_cons] at found
              · exact String.le_antisymm (String.not_lt.1 notAfter) (String.not_lt.1 notBefore)
          subst otherName
          have values : value = otherValue := by
            have found := same name
            simpa [get?_cons] using found
          subst otherValue
          obtain ⟨leftFirst, leftRest⟩ := List.pairwise_cons.1 leftAscending
          obtain ⟨rightFirst, rightRest⟩ := List.pairwise_cons.1 rightAscending
          congr 1
          refine ih leftRest rightRest fun key => ?_
          by_cases found : name = key
          · subst key
            have below : ∀ {tail : Entries α}, (∀ entry ∈ tail, name < entry.1) →
                get? tail name = none := by
              intro tail above
              induction tail with
              | nil => rfl
              | cons entry tail ih =>
                  obtain ⟨next, held⟩ := entry
                  have less : name < next := above (next, held) (by simp)
                  have different : next ≠ name := fun same =>
                    String.lt_irrefl name (same ▸ less)
                  rw [get?_cons, if_neg different]
                  exact ih fun entry member => above entry (by simp [member])
            rw [below leftFirst, below rightFirst]
          · have found' := same key
            simpa [get?_cons, found] using found'

end Entries

end Blueprint
