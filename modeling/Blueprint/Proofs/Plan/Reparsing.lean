import Blueprint.Proofs.Document.MergeValues
import Blueprint.Proofs.Plan.Emission

/-!
# Parsing a plan again

A plan is itself a document, once the placements of hosts are taken out of it, and what
it is parsed to is the plan (`parse_unplaced`).  Each step answers what it answered the
first time: merging drops the null sections, building makes the root from its values
(`Frozen.structural_sections`), and with the same root validation and emission are the
same.
-/

namespace Blueprint

theorem filled_filled (given : Option Tree) : filled (filled given) = filled given := by
  simp only [filled, Option.filter_filter, Bool.and_self]

/-- Nothing is left out where there is no null. -/
theorem Merge.Filled.eq_of_filled {values kept : Dict Tree} (notNull : Filled values)
    (isKept : ∀ key, kept.get? key = filled (values.get? key)) : kept = values := by
  apply Dict.ext_get?
  intro key
  rw [isKept]
  cases held : values.get? key with
  | none => rfl
  | some value =>
      rw [filled, Option.filter_some, notNull key value held]
      rfl

section

variable {registry : Registry} {target name : String} {path : Path} {values kept : Dict Tree}
  {header : Header} {children : Entries Instance}

/-- The values of a map that is read from a mapping without nulls are not null. -/
theorem Built.entries_filled (notNull : Merge.Filled values)
    (built : Built registry target name path (.mapping values.entries) (.entries header children)) :
    Merge.Filled ⟨(Instance.entries header children).valuesByKey, built.valuesByKey_ascending⟩ := by
  intro key value found
  have isValue : (key, value) ∈ (Instance.entries header children).valuesByKey :=
    Entries.mem_of_get? found
  rw [Instance.valuesByKey_entries] at isValue
  obtain ⟨⟨_, child⟩, member, same⟩ := List.mem_map.mp isValue
  cases same
  obtain ⟨index, isChild⟩ := List.mem_iff_getElem?.mp member
  cases built with
  | entries known kind itemKnown readable keys each =>
      cases readable
      obtain ⟨raw, isEntry⟩ := Entries.exists_getElem?_of_keys keys isChild
      by_contra isNull
      rw [Bool.not_eq_false, Tree.isNull_iff] at isNull
      have rawNull := (each index _ raw child isEntry isChild).null_of_value isNull
      have some := notNull _ raw (Dict.mem_entries_iff.mp (List.mem_of_getElem? isEntry))
      rw [rawNull] at some
      contradiction

/-- The fields of a composite that are not null are built into it again. -/
theorem Built.refilled {raw : Tree}
    (built : Built registry target name path raw (.fields header children))
    (isKept : ∀ key, kept.get? key = filled ((Entries.get? children key).map Instance.value)) :
    Built registry target name path (.mapping kept.entries) (.fields header children) := by
  cases built with
  | fields known kind readable declared ascending present dispensable each =>
      have same : ∀ key, filled (kept.get? key) =
          filled ((Entries.get? children key).map Instance.value) := by
        intro key
        rw [isKept, filled_filled]
      apply Built.of_values present each same known kind ascending dispensable
      case again =>
        intro key field value child isField isChosen isChild
        exact (each key field value child isField isChosen isChild).rebuilt
      case held =>
        intro key member
        rw [Entries.mem_keys_iff, Entries.contains, Option.isSome_iff_exists] at member
        obtain ⟨value, isValue⟩ := member
        have given := (Option.filter_eq_some_iff.mp ((isKept key).symm.trans isValue)).1
        obtain ⟨child, isChild, _⟩ := Option.map_eq_some_iff.mp given
        exact ⟨child, isChild⟩

namespace Registry

/-- What is given of the sections of a root, where null is not. -/
theorem filled_sections {root : Instance} (ascending : root.valuesByKey.Ascending) (key : String) :
    filled ((registry.sections root).get? key) = filled (root.valuesByKey.get? key) := by
  rw [get?_sections registry ascending]
  cases root.valuesByKey.get? key with
  | some value => rfl
  | none =>
      rw [Option.none_or]
      split <;> rfl

/-- The sections of a root, without those that are null, are built into the root. -/
theorem Frozen.structural_sections (frozen : registry.Frozen) {root : Instance}
    (notNull : Merge.Filled values)
    (structural : registry.structural (.mapping values.entries) = .ok root)
    (isKept : ∀ key, kept.get? key = filled ((registry.sections root).get? key)) :
    registry.structural (.mapping kept.entries) = .ok root := by
  rw [Registry.structural, frozen.build_iff_built] at structural ⊢
  have built := structural
  have isKept : ∀ key, kept.get? key = filled (root.valuesByKey.get? key) := fun key =>
    (isKept key).trans (filled_sections built.valuesByKey_ascending key)
  cases structural with
  | leaf =>
      obtain rfl : kept = values := notNull.eq_of_filled isKept
      exact built
  | @fields _ _ _ _ definition _ _ children =>
      apply built.refilled
      intro key
      rw [isKept, Instance.valuesByKey_fields, Entries.get?_mapValues]
  | items known kind itemKnown readable => contradiction
  | @entries _ _ _ _ definition _ _ children =>
      have same := (built.entries_filled notNull).eq_of_filled isKept
      have again := built.rebuilt
      rw [Instance.value, Instance.valueEntries_eq_mapValues,
        ← Instance.valuesByKey_entries ⟨definition.name, "", Path.root⟩] at again
      rwa [same]

end Registry

end

/-- A plan without its placements is parsed to the plan, with any merge table. -/
theorem parse_unplaced {checks : Checks} {registry : Registry} (frozen : registry.Frozen)
    {sources : List Source} {policies : PolicyTable} {plan : Plan}
    (parsed : parse checks registry sources policies = .ok plan) (id : String)
    (others : PolicyTable) :
    parse checks registry [⟨id, (registry.unplaced plan).toTree⟩] others = .ok plan := by
  obtain ⟨isFrozen, merged, root, isMerged, structural, valid, emitted⟩ := parse_ok_iff.mp parsed
  obtain ⟨values, rfl, notNull⟩ := merge_filled isMerged
  have assembled := emitted
  rw [frozen.emit_eq (frozen.build_iff_built.mp structural)] at assembled
  rw [Registry.unplaced_of_place assembled, Plan.toTree]
  obtain ⟨kept, again, isKept⟩ := merge_single id (registry.sections root) others
  have rebuilt := frozen.structural_sections notNull structural isKept
  exact parse_ok_iff.mpr ⟨isFrozen, _, root, again, rebuilt, valid, emitted⟩

/-- A schema with a default of null and one that is filled in. -/
def siteSchema : List Definition :=
  frameSchema ++
    [Definition.leaf "any" .any, Definition.map "templates" "any",
      (((Definition.composite "site").withOptional "node_templates" "templates").withField "frame"
        ((Field.optional "frame").withDefault .null)).withField "note"
          ((Field.optional "any").withDefault .null)]

/-- A site with a single template, which is no host. -/
def lonelySite : Source :=
  ⟨"site.yaml", .mapping [("node_templates", .mapping [("app", .mapping [])])]⟩

/-- The plan of the site, where a profile contributed a field that is not given, is parsed to
itself. -/
theorem parse_lonelySite :
    ∃ base extended placed registry plan,
      Registry.register "site" siteSchema = .ok base ∧
      base.apply [.addToSchema "site" "owner" (.leaf "owner" .string) false []] = .ok extended ∧
      extended.setPlacement ⟨"host", "contained_in", "central"⟩ = .ok placed ∧
      placed.freeze = .ok registry ∧ registry.Frozen ∧
      parse Checks.none registry [lonelySite] ⟨.override, ∅⟩ = .ok plan ∧
      (registry.unplaced plan).toTree = .mapping
        [("frame", .mapping [("size", .mapping [("width", .int 1)])]),
         ("node_templates", .mapping [("app", .mapping [])]), ("note", .null),
         ("owner", .null)] ∧
      parse Checks.none registry [⟨"plan.yaml", (registry.unplaced plan).toTree⟩]
        ⟨.mergeNoOverride, ∅⟩ = .ok plan := by
  obtain ⟨base, extended, placed, registry, plan, registered, applied, installed, accepted, parsed,
      sections⟩ :
      ∃ base extended placed registry plan,
        Registry.register "site" siteSchema = .ok base ∧
        base.apply [.addToSchema "site" "owner" (.leaf "owner" .string) false []] = .ok extended ∧
        extended.setPlacement ⟨"host", "contained_in", "central"⟩ = .ok placed ∧
        placed.freeze = .ok registry ∧
        parse Checks.none registry [lonelySite] ⟨.override, ∅⟩ = .ok plan ∧
        (registry.unplaced plan).toTree = .mapping
          [("frame", .mapping [("size", .mapping [("width", .int 1)])]),
           ("node_templates", .mapping [("app", .mapping [])]), ("note", .null),
           ("owner", .null)] :=
    ⟨_, _, _, _, _, rfl, rfl, rfl, rfl, rfl, rfl⟩
  have frozen : registry.Frozen :=
    ⟨placed, .place (.apply (.register registered) applied) installed, accepted⟩
  exact ⟨base, extended, placed, registry, plan, registered, applied, installed, accepted, frozen,
    parsed, sections, parse_unplaced frozen parsed "plan.yaml" _⟩

end Blueprint
