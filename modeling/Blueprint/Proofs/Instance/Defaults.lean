import Blueprint.Instance.Build
import Blueprint.Proofs.Schema.Freezing
import Mathlib.Data.List.Flatten

/-!
# How deeply defaults nest

A default leads from a definition to one that it refers to.  If no definition
contains itself, the definition that declares the default is out of reach from
there, so fewer and fewer defaults are within reach.  `Registry.Enough` says that a
number of levels covers those within reach of a name; the number of all defaults
does so for every name (`Registry.enough_countDefaults`).  The defaults themselves
are `Registry.defaultTrees`.
-/

namespace Blueprint.Registry

open Relation

/-- The defaults that the definition of a name declares. -/
def defaultsOf (registry : Registry) (name : String) : List Field :=
  match registry.definition? name with
  | none => []
  | some definition => definition.defaults

/-- A number of levels that covers all defaults within reach of a name: however one
lists definitions that the name leads to, they do not have more defaults. -/
def Enough (registry : Registry) (levels : Nat) (target : String) : Prop :=
  ∀ names : List String, names.Nodup →
    (∀ name ∈ names, name ∈ registry.definitions.keys ∧ ReflTransGen registry.Refers target name) →
    (names.flatMap registry.defaultsOf).length ≤ levels

theorem flatMap_defaultsOf_keys (registry : Registry) :
    registry.definitions.keys.flatMap registry.defaultsOf =
      registry.definitions.values.flatMap Definition.defaults := by
  unfold Dict.keys Dict.values Entries.keys Entries.values
  rw [List.flatMap_map, List.flatMap_map]
  apply List.flatMap_congr
  rintro ⟨name, definition⟩ member
  have known : registry.definition? name = some definition := Dict.mem_entries_iff.mp member
  rw [defaultsOf, known]

/-- All defaults of a registry cover those within reach of any name. -/
theorem enough_countDefaults (registry : Registry) (target : String) :
    registry.Enough (Build.countDefaults registry.definitions.values) target := by
  intro names distinct reached
  have inside : names ⊆ registry.definitions.keys := fun name member => (reached name member).1
  obtain ⟨listed, sameNames, among⟩ := distinct.subperm inside
  rw [Build.countDefaults, ← flatMap_defaultsOf_keys,
    ← (sameNames.flatMap_right registry.defaultsOf).length_eq]
  exact (among.flatMap registry.defaultsOf).length_le

theorem Enough.succ {registry : Registry} {levels : Nat} {target : String}
    (enough : registry.Enough levels target) : registry.Enough (levels + 1) target :=
  fun names distinct reached => Nat.le_succ_of_le (enough names distinct reached)

/-- What covers a name covers those that it refers to. -/
theorem Enough.of_refers {registry : Registry} {levels : Nat} {target part : String}
    (enough : registry.Enough levels target) (refers : registry.Refers target part) :
    registry.Enough levels part := by
  intro names distinct reached
  apply enough names distinct
  intro name member
  obtain ⟨known, leads⟩ := reached name member
  exact ⟨known, ReflTransGen.head refers leads⟩

/-- A default of a definition is out of reach from what the definition refers to. -/
theorem Enough.of_default {registry : Registry} {levels : Nat} {target part : String}
    (enough : registry.Enough levels target) (acyclic : registry.Acyclic)
    (refers : registry.Refers target part) (declares : registry.defaultsOf target ≠ []) :
    ∃ fewer, levels = fewer + 1 ∧ registry.Enough fewer part := by
  have more : ∀ names : List String, names.Nodup →
      (∀ name ∈ names,
        name ∈ registry.definitions.keys ∧ ReflTransGen registry.Refers part name) →
      (registry.defaultsOf target).length + (names.flatMap registry.defaultsOf).length ≤
        levels := by
    intro names distinct reached
    have fresh : target ∉ names := by
      intro member
      exact acyclic target (TransGen.head' refers (reached target member).2)
    have all := enough (target :: names) (List.nodup_cons.mpr ⟨fresh, distinct⟩) ?_
    · rwa [List.flatMap_cons, List.length_append] at all
    · intro name member
      rcases List.mem_cons.mp member with rfl | member
      · exact ⟨refers.source_known, ReflTransGen.refl⟩
      · obtain ⟨known, leads⟩ := reached name member
        exact ⟨known, ReflTransGen.head refers leads⟩
  have some := more [] List.nodup_nil (by simp)
  have declared := List.length_pos_iff.mpr declares
  have fewer : registry.Enough (levels - 1) part := by
    intro names distinct reached
    have bound := more names distinct reached
    omega
  exact ⟨levels - 1, by omega, fewer⟩

theorem mem_defaultsOf_iff {registry : Registry} {target : String} {definition : Definition}
    {field : Field} (known : registry.definition? target = some definition) :
    field ∈ registry.defaultsOf target ↔ field ∈ definition.defaults := by
  rw [defaultsOf, known]

/-- The trees that stand in for fields that are not given. -/
def defaultTrees (registry : Registry) : List Tree :=
  registry.definitions.values.flatMap fun definition => definition.defaults.filterMap Field.default

theorem mem_defaultTrees {registry : Registry} {target key : String}
    {definition : Definition} {fields : Dict Field} {field : Field} {value : Tree}
    (known : registry.definition? target = some definition)
    (kind : definition.kind = .composite fields) (isField : fields.get? key = some field)
    (isDefault : field.default = some value) : value ∈ registry.defaultTrees := by
  have hasDefault := Definition.mem_defaults kind isField isDefault
  apply List.mem_flatMap.mpr
  refine ⟨definition, Dict.mem_values_iff.mpr ⟨target, known⟩, ?_⟩
  exact List.mem_filterMap.mpr ⟨field, hasDefault, isDefault⟩

/-- The defaults of a registry are ordered, as those of profiles are that were read
(`Config.activate_defaultsOrdered`). -/
def DefaultsOrdered (registry : Registry) : Prop :=
  ∀ value ∈ registry.defaultTrees, value.Ordered

end Blueprint.Registry
