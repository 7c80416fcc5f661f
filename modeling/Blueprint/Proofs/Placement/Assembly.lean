import Blueprint.Placement

/-!
# The placements of a plan

Placing the templates and then equipping the hosts gives every template its own placement, which
has what is gathered for a host if the template is one (`HostPlacement.placements_eq`).  The other
parts of a placement are not touched by that.
-/

namespace Blueprint

theorem Tree.get?_mapping (entries : Entries Tree) (key : String) :
    (Tree.mapping entries).get? key = Entries.get? entries key :=
  rfl

namespace Placement

/-- A placement that lists names under a key. -/
def Lists (placed : Tree) (key : String) (listed : List String) : Prop :=
  placed.get? key = some (.sequence (listed.map .string))

theorem Lists.unique {placed : Tree} {key : String} {listed others : List String}
    (lists : Lists placed key listed) (itsLists : Lists placed key others) : listed = others := by
  have same := Tree.sequence.inj (Option.some.inj (lists.symm.trans itsLists))
  exact (List.map_inj_right fun _ _ => Tree.string.inj).mp same

end Placement

namespace Placement.Inventory

variable (inventory : Inventory) (placement : HostPlacement)

/-- The placement of a template with what it gets as a host. -/
def equipped (name : String) (template : Tree) : Tree :=
  match (inventory.installAll placement).get? name with
  | none => inventory.entry placement name template
  | some plugins => equip plugins (inventory.entry placement name template)

theorem get?_equip (plugins : NameSet) (placed : Entries Tree) (key : String) :
    (equip plugins (.mapping placed)).get? key =
      if "plugins_to_install" = key then some (names plugins) else Entries.get? placed key := by
  rw [equip, Tree.get?_mapping, Entries.get?_insert]

/-- What is gathered for a host stands beside the rest of its placement. -/
theorem get?_equipped_of_ne {key : String} (other : key ≠ "plugins_to_install") (name : String)
    (template : Tree) :
    (inventory.equipped placement name template).get? key =
      (inventory.entry placement name template).get? key := by
  unfold equipped
  split
  · rfl
  · rw [entry, get?_equip, if_neg other.symm]
    rfl

theorem get?_equipped_install (name : String) (template : Tree) :
    (inventory.equipped placement name template).get? "plugins_to_install" =
      ((inventory.installAll placement).get? name).map names := by
  unfold equipped
  split
  · next none =>
      rw [none]
      rfl
  · next plugins some =>
      rw [some, entry, get?_equip, if_pos rfl]
      rfl

theorem get?_equipped_host (name : String) (template : Tree) :
    (inventory.equipped placement name template).get? "host_id" =
      some (((inventory.hostOf placement name).map Tree.string).getD .null) := by
  rw [get?_equipped_of_ne _ _ (by decide), entry]
  cases inventory.hostOf placement name <;> rfl

theorem equipped_lists_host (name : String) (template : Tree) :
    Lists (inventory.equipped placement name template) "host_plugins"
      (inventory.usage placement true template).keys := by
  rw [Lists, get?_equipped_of_ne _ _ (by decide)]
  rfl

theorem equipped_lists_deployment (name : String) (template : Tree) :
    Lists (inventory.equipped placement name template) "deployment_plugins"
      (inventory.usage placement false template).keys := by
  rw [Lists, get?_equipped_of_ne _ _ (by decide)]
  rfl

/-- Equipping one host after the other gives each placement what is gathered for its name, if every
host has one entry only. -/
theorem foldl_equipHost {installed : Entries NameSet} (distinct : (Entries.keys installed).Nodup)
    (placed : Entries Tree) :
    installed.foldl (fun placed entry => equipHost placed entry.1 entry.2) placed =
      placed.mapValues fun name tree =>
        match Entries.get? installed name with
        | none => tree
        | some plugins => equip plugins tree := by
  induction installed generalizing placed with
  | nil => simp [Entries.mapValues]
  | cons entry rest ih =>
      obtain ⟨host, plugins⟩ := entry
      obtain ⟨notLater, others⟩ := List.nodup_cons.mp distinct
      rw [List.foldl_cons, ih others, equipHost, Entries.mapValues, Entries.mapValues, List.map_map,
        Entries.mapValues]
      apply List.map_congr_left
      rintro ⟨name, tree⟩ _
      by_cases same : name = host
      · -- The host comes once only, so the others leave its placement as it is now.
        subst same
        simp [Entries.get?_cons, Entries.get?_eq_none_iff.mpr notLater]
      · simp [Entries.get?_cons, same, Ne.symm same]

end Placement.Inventory

/-- Every template of a plan has its own placement. -/
theorem HostPlacement.placements_eq (placement : HostPlacement) (plan : Plan) :
    placement.placements plan =
      .mapping ((Placement.Inventory.ofPlan plan).templates.mapValues
        ((Placement.Inventory.ofPlan plan).equipped placement)) := by
  unfold placements
  dsimp only
  rw [Placement.Inventory.foldl_equipHost (Dict.ascending _).nodup_keys]
  unfold Entries.mapValues
  rw [List.map_map]
  rfl

theorem HostPlacement.get?_placements (placement : HostPlacement) (plan : Plan) (name : String) :
    (placement.placements plan).get? name =
      ((Placement.Inventory.ofPlan plan).templates.get? name).map
        ((Placement.Inventory.ofPlan plan).equipped placement name) := by
  rw [placements_eq, Tree.get?_mapping, Entries.get?_mapValues]

end Blueprint
