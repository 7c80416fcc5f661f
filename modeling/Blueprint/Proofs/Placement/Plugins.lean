import Blueprint.Proofs.Placement.Assembly
import Blueprint.Proofs.Placement.Derivation
import Blueprint.Proofs.Text.Split

/-!
# The plugins of templates

An operation uses a plugin if its implementation begins with the name of the plugin and a dot, and
its executor, or else that of the plugin, says on which side the plugin runs.  For every plugin
without a dot in its name the lists in a placement are exactly that
(`HostPlacement.placements_plugins`).

The name is cut off at the first dot, so a plugin with a dot in its name is never found, whatever
the implementation begins with (`HostPlacement.placements_lamp`).
-/

namespace Blueprint

namespace Placement

/-- The text before the first dot has no dot, and what follows the dot is any text. -/
theorem beforeDot?_eq_some_iff {text name : String} :
    beforeDot? text = some name ↔ '.' ∉ name.toList ∧ ∃ rest, text = name ++ "." ++ rest := by
  unfold beforeDot?
  constructor
  · intro found
    split at found
    · next first second others parts =>
        cases found
        obtain ⟨rest, chars⟩ := Text.exists_append_of_split '.' parts
        rw [String.toList_ofList]
        refine ⟨Text.absent_of_mem_split (parts ▸ List.mem_cons_self), String.ofList rest, ?_⟩
        apply String.toList_inj.mp
        simp [String.toList_append, chars]
    · contradiction
  · rintro ⟨absent, rest, rfl⟩
    obtain ⟨second, others, parts⟩ :=
      List.exists_cons_of_ne_nil (Text.split_ne_nil '.' rest.toList)
    have chars : (name ++ "." ++ rest).toList = name.toList ++ '.' :: rest.toList := by
      simp [String.toList_append]
    rw [chars, Text.split_append, Text.split_of_absent absent, parts]
    simp

/-- An operation whose implementation is in a plugin of a name. -/
def Uses (operation : Tree) (name : String) : Prop :=
  ∃ rest, operation.get? "implementation" = some (.string (name ++ "." ++ rest))

/-- An operation with the executor of the host, its own or else that of its plugin. -/
def RunsOnHost (placement : HostPlacement) (operation plugin : Tree) : Prop :=
  (operation.get? "executor").or (plugin.get? "executor") = some (.string placement.hostExecutor)

theorem executor?_eq_host_iff {placement : HostPlacement} {operation plugin : Tree} :
    executor? operation plugin = some placement.hostExecutor ↔
      RunsOnHost placement operation plugin := by
  rw [executor?, Tree.bind_text?_eq_some_iff, RunsOnHost]

theorem plugin?_eq_some_iff {plugins : Entries Tree} {operation plugin : Tree} {name : String} :
    plugin? plugins operation = some (name, plugin) ↔
      '.' ∉ name.toList ∧ Uses operation name ∧ plugins.get? name = some plugin := by
  unfold plugin? Uses
  simp only [Option.bind_eq_bind, Option.bind_eq_some_iff, Tree.text?_eq_some_iff,
    beforeDot?_eq_some_iff, exists_eq_right, Option.some.injEq, Prod.mk.injEq]
  constructor
  · rintro ⟨_, isText, cut, ⟨absent, rest, rfl⟩, found, declared, rfl, rfl⟩
    exact ⟨absent, ⟨rest, isText⟩, declared⟩
  · rintro ⟨absent, ⟨rest, isText⟩, declared⟩
    exact ⟨_, isText, name, ⟨absent, rest, rfl⟩, plugin, declared, rfl, rfl⟩

/-- The plugins of operations on one side are those that run there. -/
theorem mem_pluginsOn_iff {host : Bool} {placement : HostPlacement} {plugins : Entries Tree}
    {operations : List Tree} {name : String} :
    name ∈ (pluginsOn host placement plugins operations).keys ↔
      '.' ∉ name.toList ∧ ∃ plugin, plugins.get? name = some plugin ∧
        ∃ operation ∈ operations, Uses operation name ∧
          (RunsOnHost placement operation plugin ↔ host = true) := by
  have side (operation plugin : Tree) :
      ((executor? operation plugin == some placement.hostExecutor) == host) = true ↔
        (RunsOnHost placement operation plugin ↔ host = true) := by
    rw [beq_iff_eq, Bool.eq_iff_iff, beq_iff_eq, executor?_eq_host_iff]
  rw [pluginsOn, NameSet.mem_keys_addAll, NameSet.keys_empty]
  simp only [List.not_mem_nil, or_false, List.mem_filterMap]
  constructor
  · rintro ⟨operation, member, found⟩
    split at found
    · contradiction
    · next itsName plugin isPlugin =>
        obtain ⟨runs, same⟩ := Option.ite_none_right_eq_some.mp found
        cases same
        obtain ⟨absent, uses, declared⟩ := plugin?_eq_some_iff.mp isPlugin
        exact ⟨absent, plugin, declared, operation, member, uses, (side _ _).mp runs⟩
  · rintro ⟨absent, plugin, declared, operation, member, uses, runs⟩
    refine ⟨operation, member, ?_⟩
    rw [plugin?_eq_some_iff.mpr ⟨absent, uses, declared⟩]
    exact if_pos ((side _ _).mpr runs)

namespace Inventory

/-- Some operation of a template uses a declared plugin, which runs on the host. -/
def UsesOnHost (inventory : Inventory) (placement : HostPlacement) (template : Tree)
    (name : String) : Prop :=
  ∃ plugin operation, inventory.plugins.get? name = some plugin ∧
    Performs inventory.types template operation ∧ Uses operation name ∧
    RunsOnHost placement operation plugin

/-- Some operation of a template uses a declared plugin, which runs elsewhere: on the deployment
manager. -/
def UsesElsewhere (inventory : Inventory) (placement : HostPlacement) (template : Tree)
    (name : String) : Prop :=
  ∃ plugin operation, inventory.plugins.get? name = some plugin ∧
    Performs inventory.types template operation ∧ Uses operation name ∧
    ¬ RunsOnHost placement operation plugin

section

variable {inventory : Inventory} {placement : HostPlacement} {template : Tree} {name : String}

theorem mem_usage_host_iff :
    name ∈ (inventory.usage placement true template).keys ↔
      '.' ∉ name.toList ∧ inventory.UsesOnHost placement template name := by
  simp only [usage, mem_pluginsOn_iff, mem_operations_iff, UsesOnHost, iff_true,
    exists_and_left]

theorem mem_usage_elsewhere_iff :
    name ∈ (inventory.usage placement false template).keys ↔
      '.' ∉ name.toList ∧ inventory.UsesElsewhere placement template name := by
  simp only [usage, mem_pluginsOn_iff, mem_operations_iff, UsesElsewhere, Bool.false_eq_true,
    iff_false, exists_and_left]

end

end Inventory

end Placement

open Placement Placement.Inventory in
/-- The plugins of a template are listed in order on the side on which they run, those whose names
have a dot excepted. -/
theorem HostPlacement.placements_plugins (placement : HostPlacement) (plan : Plan) {name : String}
    {template : Tree} (known : (ofPlan plan).templates.get? name = some template) :
    ∃ placed hostPlugins deploymentPlugins,
      (placement.placements plan).get? name = some placed ∧
      Lists placed "host_plugins" hostPlugins ∧
      Lists placed "deployment_plugins" deploymentPlugins ∧
      hostPlugins.Pairwise (· < ·) ∧ deploymentPlugins.Pairwise (· < ·) ∧
      ∀ plugin,
        (plugin ∈ hostPlugins ↔
          '.' ∉ plugin.toList ∧ (ofPlan plan).UsesOnHost placement template plugin) ∧
        (plugin ∈ deploymentPlugins ↔
          '.' ∉ plugin.toList ∧ (ofPlan plan).UsesElsewhere placement template plugin) := by
  have itsPlacement : (placement.placements plan).get? name =
      some ((ofPlan plan).equipped placement name template) := by
    rw [get?_placements, known]
    rfl
  refine ⟨_, _, _, itsPlacement, equipped_lists_host _ placement name template,
    equipped_lists_deployment _ placement name template, Dict.keys_ascending _,
    Dict.keys_ascending _, ?_⟩
  intro plugin
  exact ⟨mem_usage_host_iff, mem_usage_elsewhere_iff⟩

/-- A house with an operation for each of two plugins, one of them with a dot in its name. -/
def workshopPlan : Plan where
  sections := Dict.ofList
    [("node_templates", .mapping
        [("house", .mapping
          [("interfaces", .mapping
              [("life", .mapping
                [("heat", .mapping [("implementation", .string "stove.burn")]),
                  ("light", .mapping [("implementation", .string "lamp.v2.shine")])])]),
            ("type", .string "site")])]),
      ("plugins", .mapping
        [("lamp.v2", .mapping [("executor", .string "host_agent")]),
          ("stove", .mapping [("executor", .string "host_agent")])])]

/-- The template of the house. -/
def workshopHouse : Tree :=
  ((Placement.Inventory.ofPlan workshopPlan).templates.get? "house").getD .null

/-- The stove is on the house, since it heats the house and runs on its host. -/
theorem HostPlacement.placements_stove :
    let placement : HostPlacement := ⟨"site", "contained_in", "host_agent"⟩
    ∃ placed plugins, (placement.placements workshopPlan).get? "house" = some placed ∧
      Placement.Lists placed "host_plugins" plugins ∧ "stove" ∈ plugins := by
  intro placement
  have known : (Placement.Inventory.ofPlan workshopPlan).templates.get? "house" =
      some workshopHouse := rfl
  obtain ⟨placed, plugins, _, itsPlacement, listed, _, _, _, iff⟩ :=
    placement.placements_plugins workshopPlan known
  have heats : (Placement.Inventory.ofPlan workshopPlan).UsesOnHost placement workshopHouse
      "stove" :=
    ⟨_, _, rfl, .inl ⟨_, "life", _, "heat", rfl, .head _, .head _⟩, ⟨"burn", rfl⟩, rfl⟩
  exact ⟨placed, plugins, itsPlacement, listed, (iff "stove").1.mpr ⟨by decide, heats⟩⟩

/-- The lamp lights the house and runs on its host, and yet it is not listed: before the first dot
of the implementation stands `lamp`, which is no plugin. -/
theorem HostPlacement.placements_lamp :
    let placement : HostPlacement := ⟨"site", "contained_in", "host_agent"⟩
    ∃ template placed,
      (Placement.Inventory.ofPlan workshopPlan).templates.get? "house" = some template ∧
      (placement.placements workshopPlan).get? "house" = some placed ∧
      (Placement.Inventory.ofPlan workshopPlan).UsesOnHost placement template "lamp.v2" ∧
      ∀ plugins, Placement.Lists placed "host_plugins" plugins → "lamp.v2" ∉ plugins := by
  intro placement
  refine ⟨workshopHouse, _, rfl, rfl, ?lights, ?unlisted⟩
  case lights =>
    exact ⟨_, _, rfl, .inl ⟨_, "life", _, "light", rfl, .head _, .tail _ (.head _)⟩,
      ⟨"shine", rfl⟩, rfl⟩
  case unlisted =>
    intro plugins listed
    have same : [Tree.string "stove"] = plugins.map Tree.string :=
      Tree.sequence.inj (Option.some.inj listed)
    obtain ⟨plugin, rfl, isStove⟩ := List.map_eq_singleton_iff.mp same.symm
    cases isStove
    decide

end Blueprint
