import Blueprint.Entries

/-!
# Dictionaries

A `Dict` bundles named values with the proof that their names ascend.  Two
dictionaries in which the same values are found are therefore equal
(`Dict.ext_get?`), and walking over one visits its names in ascending order.
-/

namespace Blueprint

universe u v

/-- Named values whose names strictly ascend. -/
structure Dict (α : Type u) where
  /-- The values with their names. -/
  entries : Entries α
  /-- The names ascend. -/
  ascending : entries.Ascending

namespace Dict

variable {α : Type u} {β : Type v}

/-- The dictionary without entries. -/
def empty : Dict α :=
  ⟨[], List.Pairwise.nil⟩

instance : EmptyCollection (Dict α) :=
  ⟨empty⟩

instance : Inhabited (Dict α) :=
  ⟨empty⟩

/-- The value under a name. -/
def get? (dict : Dict α) (key : String) : Option α :=
  dict.entries.get? key

/-- Whether a name has a value. -/
def contains (dict : Dict α) (key : String) : Bool :=
  dict.entries.contains key

/-- The names, ascending. -/
def keys (dict : Dict α) : List String :=
  dict.entries.keys

/-- The values in ascending order of their names. -/
def values (dict : Dict α) : List α :=
  dict.entries.values

/-- The number of entries. -/
def size (dict : Dict α) : Nat :=
  dict.entries.length

/-- Whether there is no entry. -/
def isEmpty (dict : Dict α) : Bool :=
  dict.entries.isEmpty

/-- Put a value under a name, replacing what stands there. -/
def insert (dict : Dict α) (key : String) (value : α) : Dict α :=
  ⟨dict.entries.insert key value, dict.ascending.insert key value⟩

/-- Put several entries in, the last one of a name winning. -/
def insertAll (dict : Dict α) (added : List (String × α)) : Dict α :=
  ⟨dict.entries.insertAll added, dict.ascending.insertAll added⟩

/-- The dictionary of listed entries, the last one of a name winning. -/
def ofList (added : List (String × α)) : Dict α :=
  empty.insertAll added

/-- Keep the entries whose name passes a test. -/
def filterKeys (dict : Dict α) (keep : String → Bool) : Dict α :=
  ⟨dict.entries.filterKeys keep, dict.ascending.filterKeys keep⟩

/-- Change every value, keeping its name. -/
def mapValues (change : String → α → β) (dict : Dict α) : Dict β :=
  ⟨dict.entries.mapValues change, dict.ascending.mapValues change⟩

instance [BEq α] : BEq (Dict α) :=
  ⟨fun left right => left.entries == right.entries⟩

theorem ext {left right : Dict α} (same : left.entries = right.entries) : left = right := by
  cases left
  cases right
  cases same
  rfl

instance [BEq α] [LawfulBEq α] : LawfulBEq (Dict α) where
  eq_of_beq {left right} same := ext (eq_of_beq (show (left.entries == right.entries) = true from same))
  rfl {dict} := (beq_self_eq_true dict.entries : (dict.entries == dict.entries) = true)

instance [DecidableEq α] : DecidableEq (Dict α) := fun left right =>
  if same : left.entries = right.entries then isTrue (ext same)
  else isFalse fun equal => same (equal ▸ rfl)

/-- Dictionaries are determined by what is found in them. -/
theorem ext_get? {left right : Dict α} (same : ∀ key, left.get? key = right.get? key) :
    left = right :=
  ext (Entries.Ascending.ext left.ascending right.ascending same)

@[simp]
theorem get?_empty (key : String) : (empty : Dict α).get? key = none :=
  rfl

theorem get?_insert (dict : Dict α) (key other : String) (value : α) :
    (dict.insert key value).get? other = if key = other then some value else dict.get? other :=
  Entries.get?_insert dict.entries key other value

/-- Insertions under different names commute. -/
theorem insert_comm (dict : Dict α) {first second : String} {left right : α}
    (different : first ≠ second) :
    (dict.insert first left).insert second right = (dict.insert second right).insert first left := by
  apply ext_get?
  intro key
  simp only [get?_insert]
  split
  · next same => rw [← same, if_neg different]
  · rfl

/-- Listed entries with ascending names are found as they are listed. -/
theorem get?_ofList {added : Entries α} (ascending : added.Ascending) (key : String) :
    (ofList added).get? key = added.get? key :=
  (ascending.get?_insertAll [] key).trans (Option.or_none)

theorem get?_filterKeys (dict : Dict α) (keep : String → Bool) (key : String) :
    (dict.filterKeys keep).get? key = if keep key then dict.get? key else none :=
  Entries.get?_filterKeys dict.entries keep key

theorem get?_mapValues (change : String → α → β) (dict : Dict α) (key : String) :
    (dict.mapValues change).get? key = (dict.get? key).map (change key) :=
  Entries.get?_mapValues change dict.entries key

theorem mem_keys_iff (dict : Dict α) (key : String) :
    key ∈ dict.keys ↔ dict.contains key = true :=
  Entries.mem_keys_iff dict.entries key

theorem contains_iff {dict : Dict α} {key : String} :
    dict.contains key = true ↔ ∃ value, dict.get? key = some value :=
  Option.isSome_iff_exists

/-- Names strictly ascend. -/
theorem keys_ascending (dict : Dict α) : dict.keys.Pairwise (· < ·) :=
  List.pairwise_map.mpr dict.ascending

theorem mem_entries_iff {dict : Dict α} {key : String} {value : α} :
    (key, value) ∈ dict.entries ↔ dict.get? key = some value :=
  ⟨dict.ascending.get?_of_mem, Entries.mem_of_get?⟩

theorem mem_values_iff {dict : Dict α} {value : α} :
    value ∈ dict.values ↔ ∃ key, dict.get? key = some value := by
  unfold values Entries.values
  rw [List.mem_map]
  constructor
  · rintro ⟨⟨key, held⟩, member, rfl⟩
    exact ⟨key, mem_entries_iff.mp member⟩
  · rintro ⟨key, found⟩
    exact ⟨(key, value), mem_entries_iff.mpr found, rfl⟩

end Dict

/-- A set of names, listed in ascending order. -/
abbrev NameSet := Dict Unit

namespace NameSet

/-- Add a name. -/
def add (names : NameSet) (name : String) : NameSet :=
  Dict.insert names name ()

/-- Add several names. -/
def addAll (names : NameSet) (added : List String) : NameSet :=
  Dict.insertAll names (added.map fun name => (name, ()))

theorem mem_keys_add (names : NameSet) (added name : String) :
    name ∈ (add names added).keys ↔ name = added ∨ name ∈ names.keys := by
  rw [Dict.mem_keys_iff, Dict.mem_keys_iff, Dict.contains_iff, Dict.contains_iff, add,
    Dict.get?_insert]
  by_cases same : added = name
  · simp [same]
  · simp [same, Ne.symm same]

theorem mem_keys_addAll (names : NameSet) (added : List String) (name : String) :
    name ∈ (addAll names added).keys ↔ name ∈ added ∨ name ∈ names.keys := by
  induction added generalizing names with
  | nil => simp [addAll, Dict.insertAll, Entries.insertAll]
  | cons first rest ih =>
      have unfolded : addAll names (first :: rest) = addAll (add names first) rest := rfl
      rw [unfolded, ih, mem_keys_add, List.mem_cons, or_left_comm, or_assoc]

@[simp]
theorem keys_empty : (∅ : NameSet).keys = [] :=
  rfl

end NameSet

end Blueprint
