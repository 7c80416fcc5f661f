import Blueprint.Proofs.Placement.Hosts

/-!
# Installation on hosts

What a host is to get is gathered while the templates are placed one after the other, and it is
written into the placements at the end.  A host may come before or after those on it, but nothing is
lost by that: after any number of templates the gathered plugins are those of the templates so far
(`Gathers`), and everything on which a template is placed is a template and a host.  So hosts, and
nothing else, get the union of the host plugins of all templates on them
(`HostPlacement.placements_installation`).
-/

namespace Blueprint

namespace Placement.Inventory

/-! ## Gathering -/

/-- What is gathered from the templates so far: every host of one of them, with the host plugins of
those on it. -/
structure Gathers (inventory : Inventory) (placement : HostPlacement) (seen : Entries Tree)
    (installed : Dict NameSet) : Prop where
  host_iff : ∀ host, (∃ plugins, installed.get? host = some plugins) ↔
    ∃ entry ∈ seen, inventory.hostOf placement entry.1 = some host
  plugin_iff : ∀ host plugin, plugin ∈ ((installed.get? host).getD ∅).keys ↔
    ∃ entry ∈ seen, inventory.hostOf placement entry.1 = some host ∧
      plugin ∈ (inventory.usage placement true entry.2).keys

section

variable {inventory : Inventory} {placement : HostPlacement} {seen : Entries Tree}
  {installed : Dict NameSet} {name host : String} {template : Tree}

theorem Gathers.mem_iff (gathers : inventory.Gathers placement seen installed)
    {plugins : NameSet} (gathered : installed.get? host = some plugins) {plugin : String} :
    plugin ∈ plugins.keys ↔
      ∃ entry ∈ seen, inventory.hostOf placement entry.1 = some host ∧
        plugin ∈ (inventory.usage placement true entry.2).keys := by
  rw [← gathers.plugin_iff, gathered, Option.getD_some]

theorem Gathers.start : inventory.Gathers placement [] ∅ where
  host_iff host := by
    have nothing : Dict.get? (∅ : Dict NameSet) host = none := rfl
    simp [nothing]
  plugin_iff host plugin := by
    have nothing : Dict.get? (∅ : Dict NameSet) host = none := rfl
    simp [nothing]

theorem install_of_none (unplaced : inventory.hostOf placement name = none) :
    inventory.install placement installed name template = installed := by
  rw [install, unplaced]

theorem get?_install_self (placed : inventory.hostOf placement name = some host) :
    (inventory.install placement installed name template).get? host =
      some (NameSet.addAll ((installed.get? host).getD ∅)
        (inventory.usage placement true template).keys) := by
  rw [install, placed, Dict.get?_insert, if_pos rfl]

theorem get?_install_of_ne (elsewhere : inventory.hostOf placement name ≠ some host) :
    (inventory.install placement installed name template).get? host = installed.get? host := by
  cases placed : inventory.hostOf placement name with
  | none => rw [install_of_none placed]
  | some other =>
      have different : other ≠ host := by
        rintro rfl
        exact elsewhere placed
      rw [install, placed, Dict.get?_insert, if_neg different]

theorem isGathered_install_iff :
    (∃ plugins, (inventory.install placement installed name template).get? host = some plugins) ↔
      (∃ plugins, installed.get? host = some plugins) ∨
        inventory.hostOf placement name = some host := by
  by_cases placed : inventory.hostOf placement name = some host
  · rw [get?_install_self placed]
    simp [placed]
  · rw [get?_install_of_ne placed]
    simp only [placed, or_false]

theorem mem_gathered_install_iff {plugin : String} :
    plugin ∈ (((inventory.install placement installed name template).get? host).getD ∅).keys ↔
      plugin ∈ ((installed.get? host).getD ∅).keys ∨
        inventory.hostOf placement name = some host ∧
          plugin ∈ (inventory.usage placement true template).keys := by
  by_cases placed : inventory.hostOf placement name = some host
  · rw [get?_install_self placed, Option.getD_some, NameSet.mem_keys_addAll]
    simp only [placed, true_and, or_comm]
  · rw [get?_install_of_ne placed]
    simp only [placed, false_and, or_false]

/-- One more template adds its host, with its host plugins. -/
theorem Gathers.step (gathers : inventory.Gathers placement seen installed) (name : String)
    (template : Tree) :
    inventory.Gathers placement (seen ++ [(name, template)])
      (inventory.install placement installed name template) where
  host_iff host := by
    rw [isGathered_install_iff, gathers.host_iff]
    simp only [List.mem_append, List.mem_singleton, or_and_right, exists_or, exists_eq_left]
  plugin_iff host plugin := by
    rw [mem_gathered_install_iff, gathers.plugin_iff]
    simp only [List.mem_append, List.mem_singleton, or_and_right, exists_or, exists_eq_left]

theorem Gathers.run (gathers : inventory.Gathers placement seen installed) (rest : Entries Tree) :
    inventory.Gathers placement (seen ++ rest)
      (rest.foldl (fun installed entry => inventory.install placement installed entry.1 entry.2)
        installed) := by
  induction rest generalizing seen installed with
  | nil => simpa using gathers
  | cons entry rest ih =>
      rw [List.append_cons, List.foldl_cons]
      exact ih (gathers.step entry.1 entry.2)

/-- All templates are gathered. -/
theorem gathers_installAll (inventory : Inventory) (placement : HostPlacement) :
    inventory.Gathers placement inventory.templates (inventory.installAll placement) :=
  Gathers.run .start inventory.templates

/-! ## Hosts -/

/-- Something is gathered for hosts and for nothing else, since a host is on itself. -/
theorem isGathered_iff_isHost :
    (∃ plugins, (inventory.installAll placement).get? host = some plugins) ↔
      inventory.IsHost placement host := by
  rw [(gathers_installAll inventory placement).host_iff]
  constructor
  · rintro ⟨_, _, placed⟩
    exact isHost_of_hostOf placed
  · intro isHost
    obtain ⟨entry, member, rfl⟩ := List.mem_map.mp isHost.isTemplate
    exact ⟨entry, member, hostOf_eq_some_iff.mpr isHost.firstHost⟩

end

end Placement.Inventory

namespace Placement

/-- A placement on a host. -/
def IsOn (placed : Tree) (host : String) : Prop :=
  placed.get? "host_id" = some (.string host)

/-- A placement with a plugin that runs on the host. -/
def Needs (placed : Tree) (plugin : String) : Prop :=
  ∃ plugins, Lists placed "host_plugins" plugins ∧ plugin ∈ plugins

/-- Placements in which hosts get the host plugins of the templates on them. -/
structure Inventory.InstallsPlugins (inventory : Inventory) (placement : HostPlacement)
    (entries : Entries Tree) : Prop where
  /-- Node templates have a placement, and nothing else has. -/
  keys : Entries.keys entries = Entries.keys inventory.templates
  /-- Hosts get plugins, and nothing else does. -/
  host_iff : ∀ host placed, (host, placed) ∈ entries →
    ((∃ value, placed.get? "plugins_to_install" = some value) ↔ inventory.IsHost placement host)
  /-- They are listed in order, each once, and are what is needed on the host. -/
  union : ∀ host placed, (host, placed) ∈ entries → inventory.IsHost placement host →
    ∃ plugins, Lists placed "plugins_to_install" plugins ∧ plugins.Pairwise (· < ·) ∧
      ∀ plugin, plugin ∈ plugins ↔
        ∃ name other, (name, other) ∈ entries ∧ IsOn other host ∧ Needs other plugin
  /-- What a template on a host needs is listed there. -/
  complete : ∀ name other host plugin, (name, other) ∈ entries → IsOn other host →
    Needs other plugin →
    ∃ placed plugins, (host, placed) ∈ entries ∧ Lists placed "plugins_to_install" plugins ∧
      plugin ∈ plugins

namespace Inventory

variable {inventory : Inventory} {placement : HostPlacement} {name host plugin : String}
  {template : Tree}

theorem equipped_isOn_iff :
    IsOn (inventory.equipped placement name template) host ↔
      inventory.hostOf placement name = some host := by
  rw [IsOn, get?_equipped_host]
  cases inventory.hostOf placement name <;> simp

theorem equipped_needs_iff :
    Needs (inventory.equipped placement name template) plugin ↔
      plugin ∈ (inventory.usage placement true template).keys := by
  have lists := equipped_lists_host inventory placement name template
  constructor
  · rintro ⟨plugins, listed, member⟩
    rwa [lists.unique listed]
  · intro member
    exact ⟨_, lists, member⟩

theorem equipped_lists_install {plugins : NameSet}
    (gathered : (inventory.installAll placement).get? host = some plugins) :
    Lists (inventory.equipped placement host template) "plugins_to_install" plugins.keys := by
  rw [Lists, get?_equipped_install, gathered]
  rfl

/-- A host lists what is needed on it by the templates of a plan. -/
theorem exists_union (isHost : inventory.IsHost placement host) :
    ∃ plugins, Lists (inventory.equipped placement host template) "plugins_to_install" plugins ∧
      plugins.Pairwise (· < ·) ∧
      ∀ plugin, plugin ∈ plugins ↔
        ∃ name other, (name, other) ∈ inventory.templates.mapValues (inventory.equipped placement) ∧
          IsOn other host ∧ Needs other plugin := by
  obtain ⟨plugins, gathered⟩ := isGathered_iff_isHost.mpr isHost
  refine ⟨plugins.keys, equipped_lists_install gathered, plugins.keys_ascending, ?_⟩
  intro plugin
  rw [(gathers_installAll inventory placement).mem_iff gathered]
  constructor
  · rintro ⟨⟨name, other⟩, isTemplate, placed, uses⟩
    exact ⟨name, _, Entries.mem_mapValues_iff.mpr ⟨other, isTemplate, rfl⟩,
      equipped_isOn_iff.mpr placed, equipped_needs_iff.mpr uses⟩
  · rintro ⟨name, _, isPlacement, isOn, needs⟩
    obtain ⟨other, isTemplate, rfl⟩ := Entries.mem_mapValues_iff.mp isPlacement
    exact ⟨(name, other), isTemplate, equipped_isOn_iff.mp isOn, equipped_needs_iff.mp needs⟩

end Inventory

end Placement

open Placement Placement.Inventory in
/-- Hosts, and nothing else, get the union of the host plugins of all templates on them. -/
theorem HostPlacement.placements_installation (placement : HostPlacement) (plan : Plan) :
    ∃ entries, placement.placements plan = .mapping entries ∧
      (Inventory.ofPlan plan).InstallsPlugins placement entries := by
  refine ⟨_, placements_eq placement plan, ?_⟩
  constructor
  case keys => exact Entries.keys_mapValues _ _
  case host_iff =>
    intro host placed isPlacement
    obtain ⟨template, _, rfl⟩ := Entries.mem_mapValues_iff.mp isPlacement
    rw [get?_equipped_install, ← isGathered_iff_isHost]
    simp
  case union =>
    intro host placed isPlacement isHost
    obtain ⟨template, _, rfl⟩ := Entries.mem_mapValues_iff.mp isPlacement
    exact exists_union isHost
  case complete =>
    intro name placed host plugin isPlacement isOn needs
    obtain ⟨other, _, rfl⟩ := Entries.mem_mapValues_iff.mp isPlacement
    -- What is named as a host has a placement of its own, in which the plugin can be listed.
    have isHost := isHost_of_hostOf (equipped_isOn_iff.mp isOn)
    obtain ⟨⟨_, template⟩, isTemplate, rfl⟩ := List.mem_map.mp isHost.isTemplate
    obtain ⟨plugins, lists, _, union⟩ := exists_union isHost
    exact ⟨_, plugins, Entries.mem_mapValues_iff.mpr ⟨template, isTemplate, rfl⟩, lists,
      (union plugin).mpr ⟨name, _, isPlacement, isOn, needs⟩⟩

/-- A thing in a barn, with an operation that is implemented by a plugin. -/
def farmTemplate (implementation : String) : Tree :=
  .mapping
    [("interfaces", .mapping
        [("life", .mapping [("start", .mapping [("implementation", .string implementation)])])]),
      ("relationships", .sequence
        [.mapping [("target", .string "barn"), ("type", .string "contained_in")]]),
      ("type", .string "thing")]

/-- A barn that is placed after an apple and before a cart, both of them in it. -/
def farmPlan : Plan where
  sections := Dict.ofList
    [("node_templates", .mapping
        [("apple", farmTemplate "press.run"), ("barn", .mapping [("type", .string "site")]),
          ("cart", farmTemplate "axle.turn")]),
      ("plugins", .mapping
        [("axle", .mapping [("executor", .string "host_agent")]),
          ("press", .mapping [("executor", .string "host_agent")])])]

example :
    ((HostPlacement.placements ⟨"site", "contained_in", "host_agent"⟩ farmPlan).get? "barn").bind
        (·.get? "plugins_to_install") =
      some (.sequence [.string "axle", .string "press"]) := by
  rfl

end Blueprint
