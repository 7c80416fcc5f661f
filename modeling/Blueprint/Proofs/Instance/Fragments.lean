import Blueprint.Proofs.Instance.Building
import Blueprint.Proofs.Instance.Defaults
import Mathlib.Data.Finset.Card

/-!
# The fragments of a document

A fragment is a tree together with the definition it is read against.  Its parts are fragments
again: the chosen values of fields, which may be defaults, and the items and entries of lists and
maps.  Following keys and indices leads from a document to its fragments (`Fragment.at?`), and what
is built for a fragment has its parts built for those of the fragment (`Built.exists_place`).

A part is read against a definition that the definition of the whole refers to.  So if no definition
contains itself there is no endless way down through parts, although defaults are not parts of the
tree (`Fragment.wellFounded_isPart`).
-/

namespace Blueprint

namespace Entries

variable {α : Type} {entries : Entries α}

theorem get?_of_mem {key : String} {value : α} (distinct : (keys entries).Nodup)
    (member : (key, value) ∈ entries) : get? entries key = some value := by
  induction entries with
  | nil => contradiction
  | cons entry rest ih =>
      rcases entry with ⟨name, other⟩
      rcases List.nodup_cons.mp distinct with ⟨fresh, later⟩
      rw [get?_cons]
      rcases List.mem_cons.mp member with here | member
      · cases here
        exact if_pos rfl
      · have different : name ≠ key := by
          rintro rfl
          exact fresh (List.mem_map.mpr ⟨(name, value), member, rfl⟩)
        rw [if_neg different]
        exact ih later member

end Entries

/-- Indices are told apart by how they are written. -/
theorem toString_injective : Function.Injective (toString : Nat → String) := by
  intro first second same
  have digits := congrArg String.toList same
  rw [Nat.toString_eq_repr, Nat.toString_eq_repr, Nat.toList_repr, Nat.toList_repr] at digits
  have readBack (number : Nat) : Nat.ofDigitChars 10 (Nat.toDigits 10 number) 0 = number :=
    Nat.ofDigitChars_toDigits (by decide) (by decide)
  rw [← readBack first, digits, readBack second]

/-- A tree and the name of the definition that it is read against. -/
structure Fragment where
  /-- The name of the definition. -/
  target : String
  /-- The tree. -/
  tree : Tree

/-- The place of a field among the entries of a composite: the value it is read from, or nothing if
a value is required and there is none. -/
def Field.place? (field : Field) (entries : Entries Tree) (key : String) :
    Option (String × Option Fragment) :=
  match field.chosen? (Entries.get? entries key) with
  | some value => some (key, some ⟨field.definition, value⟩)
  | none => if field.required then some (key, none) else none

namespace Fragment

/-- The places of a fragment, in the order in which they are built, with what stands there. -/
def places (registry : Registry) (whole : Fragment) : Entries (Option Fragment) :=
  match (registry.definition? whole.target).map Definition.kind with
  | none | some (.leaf _) => []
  | some (.composite fields) =>
      match whole.tree.asEntries? with
      | none => []
      | some entries => fields.entries.filterMap fun entry => entry.2.place? entries entry.1
  | some (.list item) =>
      match whole.tree.asItems? with
      | none => []
      | some items => items.zipIdx.map fun (value, index) => (toString index, some ⟨item, value⟩)
  | some (.map item) =>
      match whole.tree.asEntries? with
      | none => []
      | some entries => Entries.mapValues (fun _ value => some ⟨item, value⟩) entries

/-- The fragment that one reaches by following some steps. -/
def at? (registry : Registry) (whole : Fragment) : (steps : List String) → Option Fragment
  | [] => some whole
  | step :: rest =>
      match Entries.get? (whole.places registry) step with
      | some (some part) => part.at? registry rest
      | _ => none

/-- A fragment stands at a place of another. -/
def IsPart (registry : Registry) (part whole : Fragment) : Prop :=
  ∃ step, (step, some part) ∈ whole.places registry

theorem at?_append (registry : Registry) (whole : Fragment) (front back : List String) :
    whole.at? registry (front ++ back) = (whole.at? registry front).bind (·.at? registry back) := by
  induction front generalizing whole with
  | nil => rfl
  | cons step rest ih =>
      rw [List.cons_append, at?, at?]
      split
      · exact ih _
      · rfl

section Places

variable {registry : Registry} {whole : Fragment} {definition : Definition}
  (known : registry.definition? whole.target = some definition)

include known

theorem places_leaf {type : LeafType} (kind : definition.kind = .leaf type) :
    whole.places registry = [] := by
  rw [places, known, Option.map_some, kind]

theorem places_composite {fields : Dict Field} {entries : Entries Tree}
    (kind : definition.kind = .composite fields) (readable : whole.tree.asEntries? = some entries) :
    whole.places registry =
      fields.entries.filterMap fun entry => entry.2.place? entries entry.1 := by
  rw [places, known, Option.map_some, kind, readable]

theorem places_list {item : String} {items : List Tree} (kind : definition.kind = .list item)
    (readable : whole.tree.asItems? = some items) :
    whole.places registry =
      items.zipIdx.map fun (value, index) => (toString index, some ⟨item, value⟩) := by
  rw [places, known, Option.map_some, kind, readable]

theorem places_map {item : String} {entries : Entries Tree} (kind : definition.kind = .map item)
    (readable : whole.tree.asEntries? = some entries) :
    whole.places registry = Entries.mapValues (fun _ value => some ⟨item, value⟩) entries := by
  rw [places, known, Option.map_some, kind, readable]

end Places

end Fragment

theorem Field.place?_eq_some_part {field : Field} {entries : Entries Tree} {key step : String}
    {part : Fragment} (stands : field.place? entries key = some (step, some part)) :
    step = key ∧ field.chosen? (Entries.get? entries key) = some part.tree ∧
      part.target = field.definition := by
  unfold place? at stands
  split at stands
  · next value isChosen =>
      cases stands
      exact ⟨rfl, isChosen, rfl⟩
  · split at stands <;> cases stands

theorem Field.place?_eq_some_none {field : Field} {entries : Entries Tree} {key step : String}
    (stands : field.place? entries key = some (step, none)) :
    step = key ∧ field.chosen? (Entries.get? entries key) = none ∧ field.required = true := by
  unfold place? at stands
  split at stands
  · cases stands
  · next absent =>
      split at stands
      · next required =>
          cases stands
          exact ⟨rfl, absent, required⟩
      · cases stands

theorem Field.place?_key {field : Field} {entries : Entries Tree} {key : String}
    {place : String × Option Fragment} (stands : field.place? entries key = some place) :
    place.1 = key := by
  unfold place? at stands
  split at stands
  · cases stands
    rfl
  · split at stands <;> cases stands
    rfl

namespace Fragment

variable {registry : Registry} {part whole : Fragment}

/-- A part is read against a definition that the whole refers to, from a part of its tree or from a
default. -/
theorem IsPart.origin (isPart : IsPart registry part whole) :
    registry.Refers whole.target part.target ∧
      (part.tree ∈ whole.tree.parts ∨ part.tree ∈ registry.defaultTrees) := by
  rcases isPart with ⟨step, stands⟩
  unfold places at stands
  split at stands
  · contradiction
  · contradiction
  · next fields isKind =>
      rcases Option.map_eq_some_iff.mp isKind with ⟨definition, known, kind⟩
      split at stands
      · contradiction
      · next entries readable =>
          rcases List.mem_filterMap.mp stands with ⟨⟨key, field⟩, member, stands⟩
          have isField := Dict.mem_entries_iff.mp member
          rcases Field.place?_eq_some_part stands with ⟨_, isChosen, isTarget⟩
          rw [isTarget]
          constructor
          · exact Registry.refers_field known kind isField
          · rcases Field.given_or_default isChosen with isGiven | isDefault
            · exact .inl (Tree.mem_parts_of_asEntries? readable (Entries.mem_of_get? isGiven))
            · exact .inr (Registry.mem_defaultTrees known kind isField isDefault)
  · next item isKind =>
      rcases Option.map_eq_some_iff.mp isKind with ⟨definition, known, kind⟩
      split at stands
      · contradiction
      · next items readable =>
          rcases List.mem_map.mp stands with ⟨⟨value, index⟩, member, same⟩
          cases same
          constructor
          · exact Registry.refers_item known (.inl kind)
          · exact .inl (Tree.mem_parts_of_asItems? readable (List.fst_mem_of_mem_zipIdx member))
  · next item isKind =>
      rcases Option.map_eq_some_iff.mp isKind with ⟨definition, known, kind⟩
      split at stands
      · contradiction
      · next entries readable =>
          rcases List.mem_map.mp stands with ⟨⟨key, value⟩, member, same⟩
          cases same
          constructor
          · exact Registry.refers_item known (.inr kind)
          · exact .inl (Tree.mem_parts_of_asEntries? readable member)

theorem IsPart.ordered (isPart : IsPart registry part whole) (defaults : registry.DefaultsOrdered)
    (ordered : whole.tree.Ordered) : part.tree.Ordered := by
  rcases isPart.origin.2 with isGiven | isDefault
  · exact ordered.of_mem_parts isGiven
  · exact defaults part.tree isDefault

/-- No two places of an ordered tree have the same key or index. -/
theorem nodup_keys_places (registry : Registry) {whole : Fragment} (ordered : whole.tree.Ordered) :
    (Entries.keys (whole.places registry)).Nodup := by
  unfold places
  split
  · exact List.nodup_nil
  · exact List.nodup_nil
  · next fields _ =>
      split
      · exact List.nodup_nil
      · next entries _ =>
          apply Entries.Ascending.nodup_keys
          apply List.Pairwise.filterMap _ _ fields.ascending
          intro earlier later before place stands other itsStands
          rw [Field.place?_key stands, Field.place?_key itsStands]
          exact before
  · next item _ =>
      split
      · exact List.nodup_nil
      · next items _ =>
          have indices : Entries.keys (items.zipIdx.map fun (value, index) =>
              (toString index, some (Fragment.mk item value))) =
                (items.zipIdx.map Prod.snd).map toString := by
            rw [Entries.keys, List.map_map, List.map_map]
            rfl
          rw [indices, List.zipIdx_map_snd]
          exact List.Nodup.map toString_injective List.nodup_range'
  · split
    · exact List.nodup_nil
    · next entries readable =>
        rw [Entries.keys_mapValues]
        exact (ordered.ascending_of_asEntries? readable).nodup_keys

theorem at?_of_mem_places {step : String} {rest : List String} (ordered : whole.tree.Ordered)
    (stands : (step, some part) ∈ whole.places registry) :
    whole.at? registry (step :: rest) = part.at? registry rest := by
  rw [at?, Entries.get?_of_mem (nodup_keys_places registry ordered) stands]

end Fragment

/-! ## No endless way down -/

namespace Registry

open Relation

open Classical in
/-- The registered names that a name leads to, itself included. -/
noncomputable def reach (registry : Registry) (name : String) : Finset String :=
  registry.definitions.keys.toFinset.filter (ReflTransGen registry.Refers name)

theorem mem_reach_iff {registry : Registry} {name other : String} :
    other ∈ registry.reach name ↔
      other ∈ registry.definitions.keys ∧ ReflTransGen registry.Refers name other := by
  simp only [reach, Finset.mem_filter, List.mem_toFinset]

/-- Fewer definitions are within reach of what a definition refers to: it is not among them. -/
theorem Acyclic.reach_ssubset {registry : Registry} (acyclic : registry.Acyclic)
    {whole part : String} (refers : registry.Refers whole part) :
    registry.reach part ⊂ registry.reach whole := by
  have within : registry.reach part ⊆ registry.reach whole := by
    intro name member
    rcases mem_reach_iff.mp member with ⟨known, leads⟩
    exact mem_reach_iff.mpr ⟨known, ReflTransGen.head refers leads⟩
  apply (Finset.ssubset_iff_of_subset within).mpr
  refine ⟨whole, mem_reach_iff.mpr ⟨refers.source_known, ReflTransGen.refl⟩, ?_⟩
  intro member
  exact acyclic whole (TransGen.head' refers (mem_reach_iff.mp member).2)

theorem Acyclic.wellFounded {registry : Registry} (acyclic : registry.Acyclic) :
    WellFounded fun part whole => registry.Refers whole part :=
  Subrelation.wf acyclic.reach_ssubset (InvImage.wf registry.reach wellFounded_lt)

end Registry

theorem Fragment.wellFounded_isPart {registry : Registry} (acyclic : registry.Acyclic) :
    WellFounded (Fragment.IsPart registry) :=
  Subrelation.wf (fun isPart => isPart.origin.1) (InvImage.wf Fragment.target acyclic.wellFounded)

/-! ## Nodes and fragments -/

section

variable {registry : Registry} {target name : String} {path : Path} {raw : Tree} {node : Instance}

/-- A part of a node is built for what stands at its name. -/
theorem Built.exists_place {part : Instance} (built : Built registry target name path raw node)
    (member : part ∈ node.children) :
    ∃ fragment, (part.name, some fragment) ∈ Fragment.places registry ⟨target, raw⟩ ∧
      Built registry fragment.target part.name (path.child part.name) fragment.tree part := by
  cases built with
  | leaf => contradiction
  | @fields _ _ _ _ definition fields entries children known kind readable declared ascending
      present dispensable each =>
      rcases List.mem_map.mp member with ⟨⟨key, child⟩, isEntry, rfl⟩
      have isChild := ascending.get?_of_mem isEntry
      rcases (present key).mp ⟨child, isChild⟩ with ⟨field, value, isField, isChosen⟩
      have itsBuilt := each key field value child isField isChosen isChild
      have isKey := itsBuilt.located.1
      refine ⟨⟨field.definition, value⟩, ?_, isKey ▸ itsBuilt⟩
      rw [Fragment.places_composite known kind readable]
      apply List.mem_filterMap.mpr
      refine ⟨(key, field), Dict.mem_entries_iff.mpr isField, ?_⟩
      simp only [Field.place?, isChosen, isKey]
  | @items _ _ _ _ definition item items children known kind itemKnown readable length each =>
      rcases List.mem_iff_getElem?.mp member with ⟨index, isChild⟩
      have inside := (List.getElem?_eq_some_iff.mp isChild).1
      have isItem := List.getElem?_eq_getElem (length ▸ inside)
      have itsBuilt := each index _ part isItem isChild
      have isIndex := itsBuilt.located.1
      refine ⟨⟨item, _⟩, ?_, isIndex ▸ itsBuilt⟩
      rw [Fragment.places_list known kind readable, isIndex]
      apply List.mem_map.mpr
      exact ⟨(_, index), List.mk_mem_zipIdx_iff_getElem?.mpr isItem, rfl⟩
  | @entries _ _ _ _ definition item entries children known kind itemKnown readable keys each =>
      rcases List.mem_map.mp member with ⟨⟨key, child⟩, isEntry, rfl⟩
      rcases List.mem_iff_getElem?.mp isEntry with ⟨index, isChild⟩
      rcases Entries.exists_getElem?_of_keys keys isChild with ⟨value, isValue⟩
      have itsBuilt := each index key value child isValue isChild
      have isKey := itsBuilt.located.1
      refine ⟨⟨item, value⟩, ?_, isKey ▸ itsBuilt⟩
      rw [Fragment.places_map known kind readable, isKey]
      exact List.mem_map.mpr ⟨(key, value), List.mem_of_getElem? isValue, rfl⟩

end

end Blueprint
