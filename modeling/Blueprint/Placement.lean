import Blueprint.Plan
import Blueprint.Schema.Directive

/-!
# Host placement

The last step of a plan: for every node template the host on which it runs, and
where its plugins are installed.

A template is a host if its type is the host type or derives from it.  Any other
template is on the host that is reached by following its containment
relationships.  A plugin is used by an operation of the template or of its type
and the types from which that derives; it goes to the host if the executor says
so, and otherwise to the deployment manager.

Types, containment and derivation come from documents and may run in circles or
out of what is declared.  Every walk stops at the first name that it has met.

The templates are placed in name order, each on its own, and what the hosts are to
get is gathered on the way, for a host may come before or after those on it.  At the
end it is written into the placements of the hosts.
-/

namespace Blueprint.Placement

/-- The section that holds the placements. -/
def sectionName : String := "node_placement"

/-- The names met on the way from a name by following links: each once, in order,
up to the first one without a link or met before.  There are at most `limit`. -/
def chain (next : String → Option String) : (limit : Nat) → (met : List String) →
    String → List String
  | 0, _, _ => []
  | limit + 1, met, name =>
      if met.contains name then []
      else
        name ::
          match next name with
          | none => []
          | some following => chain next limit (name :: met) following

/-- The entries of a section that is a mapping. -/
def sectionEntries (plan : Plan) (name : String) : Entries Tree :=
  ((plan.get? name).bind Tree.entries?).getD []

/-- The type from which a declared type derives. -/
def parent? (types : Entries Tree) (name : String) : Option String :=
  ((types.get? name).bind (·.get? "derived_from")).bind Tree.text?

/-- A type and those from which it derives, up to the first that is not declared. -/
def lineage (types : Entries Tree) (name : String) : List String :=
  chain (parent? types) (types.length + 1) [] name

/-- Whether a type is another one or derives from it. -/
def derivesFrom (types : Entries Tree) (name ancestor : String) : Bool :=
  (lineage types name).contains ancestor

/-- The operations of a mapping of interfaces. -/
def interfaceOperations (interfaces : Tree) : List Tree :=
  match interfaces.entries? with
  | none => []
  | some entries =>
      (Entries.values entries).flatMap fun operations =>
        match operations.entries? with
        | none => []
        | some operations => Entries.values operations

/-- The operations that an element declares under its interfaces. -/
def declaredOperations (element : Tree) : List Tree :=
  match element.get? "interfaces" with
  | none => []
  | some interfaces => interfaceOperations interfaces

/-- The operations of a template and of the declared types of its lineage. -/
def operations (template : Tree) (types : Entries Tree) : List Tree :=
  let inherited :=
    match (template.get? "type").bind Tree.text? with
    | none => []
    | some name => (lineage types name).filterMap types.get?
  declaredOperations template ++ inherited.flatMap declaredOperations

/-- The text before the first dot, if there is one. -/
def beforeDot? (text : String) : Option String :=
  match Text.split '.' text.toList with
  | first :: _ :: _ => some (String.ofList first)
  | _ => none

/-- The declared plugin that implements an operation, with its description. -/
def plugin? (plugins : Entries Tree) (operation : Tree) : Option (String × Tree) := do
  let implementation ← (operation.get? "implementation").bind Tree.text?
  let name ← beforeDot? implementation
  let plugin ← plugins.get? name
  some (name, plugin)

/-- The executor of an operation: its own or else that of its plugin. -/
def executor? (operation plugin : Tree) : Option String :=
  ((operation.get? "executor").or (plugin.get? "executor")).bind Tree.text?

/-- The plugins of some operations, for the host or for the manager. -/
def pluginsOn (host : Bool) (placement : HostPlacement) (plugins : Entries Tree)
    (operations : List Tree) : NameSet :=
  NameSet.addAll ∅ <| operations.filterMap fun operation =>
    match plugin? plugins operation with
    | none => none
    | some (name, plugin) =>
        if (executor? operation plugin == some placement.hostExecutor) == host then some name
        else none

/-- The type of a template. -/
def type? (template : Tree) : Option String :=
  (template.get? "type").bind Tree.text?

/-- The target of a relationship that is one of containment. -/
def containmentTarget? (placement : HostPlacement) (relationships : Entries Tree)
    (relationship : Tree) : Option String :=
  match (relationship.get? "type").bind Tree.text? with
  | none => none
  | some kind =>
      if derivesFrom relationships kind placement.containedIn then
        (relationship.get? "target").bind Tree.text?
      else none

/-- The template in which a template is contained. -/
def container? (placement : HostPlacement) (relationships : Entries Tree) (template : Tree) :
    Option String :=
  match (template.get? "relationships").bind Tree.items? with
  | none => none
  | some items => items.findSome? (containmentTarget? placement relationships)

/-- The host of a template, following containment for at most `limit` templates
that were not met before. -/
def hostFrom (placement : HostPlacement) (templates types relationships : Entries Tree) :
    (limit : Nat) → (met : List String) → String → Option String
  | 0, _, _ => none
  | limit + 1, met, name =>
      if met.contains name then none
      else
        match templates.get? name with
        | none => none
        | some template =>
            match type? template with
            | none => none
            | some type =>
                if derivesFrom types type placement.hostType then some name
                else
                  match container? placement relationships template with
                  | none => none
                  | some next =>
                      hostFrom placement templates types relationships limit (name :: met) next

/-- The sections of a plan that placement reads. -/
structure Inventory where
  templates : Entries Tree
  types : Entries Tree
  relationships : Entries Tree
  plugins : Entries Tree

/-- The inventory of a plan. -/
def Inventory.ofPlan (plan : Plan) : Inventory :=
  ⟨sectionEntries plan "node_templates", sectionEntries plan "node_types",
    sectionEntries plan "relationships", sectionEntries plan "plugins"⟩

namespace Inventory

/-- The host of a template. -/
def hostOf (inventory : Inventory) (placement : HostPlacement) (name : String) : Option String :=
  hostFrom placement inventory.templates inventory.types inventory.relationships
    (inventory.templates.length + 1) [] name

/-- The plugins of a template, for the host or for the manager. -/
def usage (inventory : Inventory) (placement : HostPlacement) (host : Bool) (template : Tree) :
    NameSet :=
  pluginsOn host placement inventory.plugins (operations template inventory.types)

/-- Add the host plugins of a template to those that its host is to get, if it has a
host. -/
def install (inventory : Inventory) (placement : HostPlacement) (installed : Dict NameSet)
    (name : String) (template : Tree) : Dict NameSet :=
  match inventory.hostOf placement name with
  | none => installed
  | some host =>
      let plugins := (installed.get? host).getD ∅
      installed.insert host
        (NameSet.addAll plugins (inventory.usage placement true template).keys)

/-- What each host is to get from all templates on it. -/
def installAll (inventory : Inventory) (placement : HostPlacement) : Dict NameSet :=
  inventory.templates.foldl
    (fun installed entry => inventory.install placement installed entry.1 entry.2) ∅

/-- A set of names as a sequence. -/
def names (set : NameSet) : Tree :=
  .sequence (set.keys.map .string)

/-- The placement of a template, without what it is to get as a host. -/
def entry (inventory : Inventory) (placement : HostPlacement) (name : String) (template : Tree) :
    Tree :=
  let host :=
    match inventory.hostOf placement name with
    | none => .null
    | some host => .string host
  .mapping
    [("deployment_plugins", names (inventory.usage placement false template)), ("host_id", host),
     ("host_plugins", names (inventory.usage placement true template))]

/-- Add what a host is to get to a placement. -/
def equip (plugins : NameSet) : Tree → Tree
  | .mapping entry => .mapping (Entries.insert entry "plugins_to_install" (names plugins))
  | other => other

/-- Add what a host is to get to its placement.  Without one there is nothing to do. -/
def equipHost (placements : Entries Tree) (host : String) (plugins : NameSet) : Entries Tree :=
  placements.mapValues fun name placed => if name = host then equip plugins placed else placed

end Inventory

end Placement

namespace HostPlacement

/-- The placement of every node template of a plan. -/
def placements (placement : HostPlacement) (plan : Plan) : Tree :=
  let inventory := Placement.Inventory.ofPlan plan
  let placed := inventory.templates.mapValues (inventory.entry placement)
  .mapping <| (inventory.installAll placement).entries.foldl
    (fun placed entry => Placement.Inventory.equipHost placed entry.1 entry.2) placed

/-- Add the placements to a plan. -/
def assemble (placement : HostPlacement) (plan : Plan) : Except EmitError Plan :=
  plan.insertSection Placement.sectionName (placement.placements plan)

end HostPlacement

end Blueprint
