import Blueprint.Schema.Form

/-!
# Reading records

The written form of a record leaves out what its reader fills in.  A part that is there is found
under its name (`exists_record`, `bind_tagged`), and one that was left out is read as the value that
stands for it (`readPart_given`, `readPart_nullable`).  Lists are read item by item, and dictionaries
entry by entry.
-/

namespace Blueprint

theorem map_eq_self_iff {α : Type} {change : α → α} {items : List α} :
    items.map change = items ↔ ∀ item ∈ items, change item = item := by
  have same := List.map_inj_left (l := items) (f := change) (g := id)
  rwa [List.map_id] at same

namespace Dict

variable {α : Type}

@[simp]
theorem ofList_entries (dict : Dict α) : ofList dict.entries = dict :=
  ext_get? fun key => get?_ofList dict.ascending key

theorem mapValues_eq_self_iff {dict : Dict α} {change : α → α} :
    (dict.mapValues fun _ => change) = dict ↔ ∀ value ∈ dict.values, change value = value := by
  have asLists : (dict.mapValues fun _ => change) = dict ↔
      (dict.entries.map fun entry => (entry.1, change entry.2)) = dict.entries :=
    ⟨congrArg entries, fun same => ext same⟩
  rw [asLists, map_eq_self_iff]
  constructor
  · intro same value member
    obtain ⟨entry, isEntry, rfl⟩ := List.mem_map.mp member
    exact congrArg Prod.snd (same entry isEntry)
  · intro same entry isEntry
    exact Prod.ext rfl (same entry.2 (List.mem_map_of_mem isEntry))

@[simp]
theorem mapValues_id (dict : Dict α) : (dict.mapValues fun _ value => value) = dict :=
  mapValues_eq_self_iff.mpr fun _ _ => rfl

end Dict

namespace Form

variable {α β : Type}

/-! ## Parts of records -/

/-- The parts that are there. -/
def present (parts : List (String × Option Tree)) : Entries Tree :=
  parts.filterMap fun part => part.2.map fun tree => (part.1, tree)

theorem keys_present_sublist (parts : List (String × Option Tree)) :
    (Entries.keys (present parts)).Sublist (Entries.keys parts) := by
  induction parts with
  | nil => exact List.Sublist.slnil
  | cons entry rest ih =>
      obtain ⟨name, _ | tree⟩ := entry
      · exact ih.cons name
      · exact ih.cons_cons name

theorem get?_present {parts : List (String × Option Tree)} (distinct : (Entries.keys parts).Nodup)
    (name : String) : Entries.get? (present parts) name = (Entries.get? parts name).join := by
  induction parts with
  | nil => rfl
  | cons entry rest ih =>
      obtain ⟨key, part⟩ := entry
      obtain ⟨notLater, others⟩ := List.nodup_cons.mp distinct
      have later := ih others
      rw [Entries.get?_cons]
      cases part with
      | some tree =>
          refine (Entries.get?_cons key name tree (present rest)).trans ?_
          split
          · rfl
          · exact later
      | none =>
          refine later.trans ?_
          split
          · next here =>
              subst here
              rw [Entries.get?_eq_none_iff.mpr notLater]
              rfl
          · rfl

/-- The parts of a record are found under their names, if they are there. -/
theorem exists_record {parts : List (String × Option Tree)}
    (distinct : (Entries.keys parts).Nodup) :
    ∃ entries : Entries Tree, record parts = .mapping entries ∧
      ∀ name, entries.get? name = (Entries.get? parts name).join := by
  refine ⟨Entries.insertAll [] (present parts), rfl, fun name => ?_⟩
  have presentDistinct := distinct.sublist (keys_present_sublist parts)
  rw [Entries.get?_insertAll presentDistinct, get?_present distinct]
  exact Option.or_none

/-- A record is read if it is read from all entries in which its parts are found. -/
theorem bind_parts {names : List String} {parts : List (String × Option Tree)}
    {read : Entries Tree → Option α} {value : α} (distinct : (Entries.keys parts).Nodup)
    (reads : ∀ entries : Entries Tree,
      (∀ name, entries.get? name = (Entries.get? parts name).join) → read entries = some value) :
    (parts? names (record parts)).bind read = some value := by
  obtain ⟨entries, isMapping, held⟩ := exists_record distinct
  rw [isMapping]
  exact reads entries held

/-- A tagged record is read under its variant if it is read from all entries in which its other
parts are found. -/
theorem bind_tagged {tag name : String} {parts : List (String × Option Tree)}
    {variants : List Variant} {numbered : Bool} {read : String × Entries Tree → Option α}
    {value : α} (known : name ∈ variants.map Prod.fst)
    (distinct : (Entries.keys ((tag, some (.string name)) :: parts)).Nodup)
    (reads : ∀ entries : Entries Tree,
      (∀ other, other ≠ tag → entries.get? other = (Entries.get? parts other).join) →
        read (name, entries) = some value) :
    (tagged? tag variants numbered (record ((tag, some (.string name)) :: parts))).bind read =
      some value := by
  obtain ⟨entries, isMapping, held⟩ := exists_record distinct
  have mark : entries.get? tag = some (.string name) := by
    rw [held, Entries.get?_cons, if_pos rfl]
    rfl
  obtain ⟨variant, found⟩ : ∃ variant, variants.find? (fun variant => variant.1 == name) =
      some variant := by
    rw [← Option.isSome_iff_exists, List.find?_isSome]
    obtain ⟨variant, member, same⟩ := List.mem_map.mp known
    exact ⟨variant, member, beq_iff_eq.mpr same⟩
  have same : variant.1 = name := by simpa using List.find?_some found
  have tagged : tagged? tag variants numbered (.mapping entries) =
      some (name, entries.erase tag) := by
    simp [tagged?, mark, variant?, found, same]
  rw [isMapping, tagged]
  apply reads
  intro other different
  rw [Entries.erase, Entries.get?_filterKeys, held, Entries.get?_cons, if_neg (Ne.symm different)]
  simp [different]

/-! ## What is left out -/

/-- Read a part that may not be there. -/
def readPart (absent : α) (read : Tree → Option α) : Option Tree → Option α
  | none => some absent
  | some tree => read tree

-- A rewriting step of its own: evaluation of `code?` would count down from its bound.
@[simp]
theorem readPart_some (absent : α) (read : Tree → Option α) (tree : Tree) :
    readPart absent read (some tree) = read tree := by
  rw [readPart]

theorem optional?_eq_readPart (entries : Entries Tree) (name : String) (absent : α)
    (read : Tree → Option α) :
    optional? entries name absent read = readPart absent read (entries.get? name) := by
  rw [optional?]
  cases entries.get? name <;> rfl

theorem readPart_given {absent value : α} {read : Tree → Option α} {present : Bool} {tree : Tree}
    (reads : present = true → read tree = some value)
    (otherwise : present = false → value = absent) :
    readPart absent read (given present tree) = some value := by
  cases present with
  | false =>
      rw [otherwise rfl]
      rfl
  | true => exact reads rfl

theorem readPart_nullable {write : β → Tree} {read : Tree → Option β} {value : Option β}
    (proper : ∀ value, (write value).isNull = false)
    (reads : ∀ value, read (write value) = some value) :
    readPart none (nullable? read) (value.map write) = some value := by
  cases value with
  | none => rfl
  | some value =>
      have notNull := proper value
      have known := reads value
      change nullable? read (write value) = some (some value)
      revert notNull known
      cases write value <;> simp +contextual [nullable?, Tree.isNull]

/-! ## Scalars -/

@[simp]
theorem text?_string (value : String) : Tree.text? (.string value) = some value :=
  rfl

@[simp]
theorem flag?_bool (value : Bool) : flag? (.bool value) = some value :=
  rfl

@[simp]
theorem code?_code (value : UInt32) : code? (code value) = some value := by
  have bound := value.toNat_lt
  have limit : Int.pow 2 32 = 4294967296 := by decide
  have within : 0 ≤ (value.toNat : Int) ∧ (value.toNat : Int) < Int.pow 2 32 := by
    rw [limit]
    omega
  rw [code, Tree.int, code?, if_pos within, Int.toNat_natCast, UInt32.ofNat_toNat]

/-! ## Collections -/

theorem list?_map {write : α → Tree} {read : Tree → Option β} {change : α → β} {items : List α}
    (reads : ∀ item ∈ items, read (write item) = some (change item)) :
    list? read (.sequence (items.map write)) = some (items.map change) := by
  rw [list?]
  induction items with
  | nil => rfl
  | cons item rest ih =>
      obtain ⟨first, others⟩ := List.forall_mem_cons.mp reads
      simp [readAll?, first, ih others]

theorem list?_map_self {write : α → Tree} {read : Tree → Option α} {items : List α}
    (reads : ∀ item ∈ items, read (write item) = some item) :
    list? read (.sequence (items.map write)) = some items := by
  have unchanged := list?_map reads
  rwa [List.map_id'] at unchanged

@[simp]
theorem list?_texts (values : List String) : list? Tree.text? (texts values) = some values :=
  list?_map_self fun value _ => text?_string value

/-- A list that is left out if it is empty. -/
theorem readPart_list {write : α → Tree} {read : Tree → Option β} {items : List α}
    {values : List β} (reads : list? read (.sequence (items.map write)) = some values) :
    readPart [] (list? read) (given (!items.isEmpty) (.sequence (items.map write))) =
      some values := by
  apply readPart_given fun _ => reads
  intro isEmpty
  obtain rfl : items = [] := by simpa using isEmpty
  exact (Option.some.inj reads).symm

theorem readEntries?_mapValues {write : α → Tree} {read : Tree → Option β} {change : α → β}
    (reads : ∀ value, read (write value) = some (change value)) (entries : Entries α) :
    readEntries? read (entries.mapValues fun _ => write) =
      some (entries.mapValues fun _ => change) := by
  induction entries with
  | nil => rfl
  | cons entry rest ih =>
      obtain ⟨name, value⟩ := entry
      simp only [Entries.mapValues, List.map_cons] at ih ⊢
      simp [readEntries?, reads, ih]

theorem dict?_mapValues {write : α → Tree} {read : Tree → Option β} {change : α → β}
    (reads : ∀ value, read (write value) = some (change value)) (dict : Dict α) :
    dict? read (.mapping (dict.mapValues fun _ => write).entries) =
      some (dict.mapValues fun _ => change) := by
  have entries := readEntries?_mapValues reads dict.entries
  change (readEntries? read (dict.entries.mapValues fun _ => write)).map Dict.ofList = _
  rw [entries]
  exact congrArg some (Dict.ofList_entries (dict.mapValues fun _ => change))

end Form

end Blueprint
