import Blueprint.Proofs.Placement.Assembly
import Blueprint.Proofs.Placement.Derivation

/-!
# The hosts of templates

A template that is not a host itself is on the first host that is reached by following containment.
The walk for it stops at the first name that it meets again, and this loses no host: from there on
it would only pass the same names once more.  So placements name exactly the first host of each
template, and null exactly if the way ends or comes back before it meets one
(`HostPlacement.placements_hosts`).
-/

namespace Blueprint

namespace Placement

/-! ## Containment -/

/-- A relationship of containment in a target. -/
def Contains (placement : HostPlacement) (relationships : Entries Tree) (relationship : Tree)
    (target : String) : Prop :=
  ∃ kind, relationship.get? "type" = some (.string kind) ∧
    Derives relationships kind placement.containedIn ∧
    relationship.get? "target" = some (.string target)

theorem containmentTarget?_eq_some_iff {placement : HostPlacement} {relationships : Entries Tree}
    {relationship : Tree} {target : String} :
    containmentTarget? placement relationships relationship = some target ↔
      Contains placement relationships relationship target := by
  unfold containmentTarget? Contains
  cases typed : (relationship.get? "type").bind Tree.text? with
  | none =>
      simp only [reduceCtorEq, false_iff]
      rintro ⟨kind, itsKind, _⟩
      rw [Tree.bind_text?_eq_some_iff.mpr itsKind] at typed
      contradiction
  | some kind =>
      have itsKind := Tree.bind_text?_eq_some_iff.mp typed
      simp only [itsKind, ← derivesFrom_iff, Option.some.injEq, Tree.string.injEq,
        exists_eq_left', Option.ite_none_right_eq_some, Tree.bind_text?_eq_some_iff]

theorem containmentTarget?_eq_none_iff {placement : HostPlacement} {relationships : Entries Tree}
    {relationship : Tree} :
    containmentTarget? placement relationships relationship = none ↔
      ∀ target, ¬ Contains placement relationships relationship target := by
  simp only [Option.eq_none_iff_forall_ne_some, ne_eq, containmentTarget?_eq_some_iff]

namespace Inventory

/-- What a template is contained in: the target of its first relationship of containment. -/
def Next (inventory : Inventory) (placement : HostPlacement) (name following : String) : Prop :=
  ∃ template earlier relationship later,
    inventory.templates.get? name = some template ∧
      template.get? "relationships" = some (.sequence (earlier ++ relationship :: later)) ∧
      Contains placement inventory.relationships relationship following ∧
      ∀ other ∈ earlier, ∀ target, ¬ Contains placement inventory.relationships other target

/-- A template with a type. -/
def Typed (inventory : Inventory) (name type : String) : Prop :=
  ∃ template, inventory.templates.get? name = some template ∧
    template.get? "type" = some (.string type)

/-- A template whose type is that of hosts or derives from it. -/
def IsHost (inventory : Inventory) (placement : HostPlacement) (name : String) : Prop :=
  ∃ type, inventory.Typed name type ∧ Derives inventory.types type placement.hostType

/-- A template with a type that is not a host. -/
def IsGuest (inventory : Inventory) (placement : HostPlacement) (name : String) : Prop :=
  (∃ type, inventory.Typed name type) ∧ ¬ inventory.IsHost placement name

/-- The names that are met after so many steps of containment. -/
inductive Way (inventory : Inventory) (placement : HostPlacement) (start : String) :
    Nat → String → Prop
  | start : Way inventory placement start 0 start
  | next {steps name following} (way : Way inventory placement start steps name)
      (next : inventory.Next placement name following) :
      Way inventory placement start (steps + 1) following

/-- The first host on the way from a name.  All names before it are templates with a type and no
hosts. -/
def FirstHost (inventory : Inventory) (placement : HostPlacement) (start host : String) : Prop :=
  ∃ steps, inventory.Way placement start steps host ∧ inventory.IsHost placement host ∧
    ∀ before < steps, ∀ name, inventory.Way placement start before name →
      inventory.IsGuest placement name

/-- Why a way does not go on from a name that is met after so many steps. -/
inductive DeadEnd (inventory : Inventory) (placement : HostPlacement) (start : String)
    (steps : Nat) (name : String) : Prop
  /-- The name is contained in nothing. -/
  | stops (last : ∀ following, ¬ inventory.Next placement name following)
  /-- The name is that of no template. -/
  | leaves (unknown : inventory.templates.get? name = none)
  /-- The template has no type. -/
  | untyped {template} (known : inventory.templates.get? name = some template)
      (untyped : ∀ type, template.get? "type" ≠ some (.string type))
  /-- The name was met before. -/
  | repeats {before} (earlier : before < steps) (way : inventory.Way placement start before name)

/-- A way that comes to a dead end before it meets a host. -/
def Hostless (inventory : Inventory) (placement : HostPlacement) (start : String) : Prop :=
  ∃ steps name, inventory.Way placement start steps name ∧
    inventory.DeadEnd placement start steps name ∧
    ∀ before ≤ steps, ∀ name, inventory.Way placement start before name →
      ¬ inventory.IsHost placement name

section

variable {inventory : Inventory} {placement : HostPlacement} {start name following host : String}
  {steps : Nat}

theorem Typed.isTemplate {type : String} (typed : inventory.Typed name type) :
    name ∈ Entries.keys inventory.templates := by
  obtain ⟨template, known, _⟩ := typed
  exact List.mem_map_of_mem (Entries.mem_of_get? known)

theorem IsHost.isTemplate (isHost : inventory.IsHost placement name) :
    name ∈ Entries.keys inventory.templates := by
  obtain ⟨type, typed, _⟩ := isHost
  exact typed.isTemplate

theorem typed_iff {type : String} {template : Tree}
    (known : inventory.templates.get? name = some template) :
    inventory.Typed name type ↔ type? template = some type := by
  rw [type?, Tree.bind_text?_eq_some_iff, Typed, known]
  simp

theorem Typed.isHost_iff {type : String} (typed : inventory.Typed name type) :
    inventory.IsHost placement name ↔ Derives inventory.types type placement.hostType := by
  constructor
  · rintro ⟨other, ⟨_, itsKnown, itsType⟩, derives⟩
    obtain ⟨_, known, isType⟩ := typed
    cases known.symm.trans itsKnown
    cases isType.symm.trans itsType
    exact derives
  · intro derives
    exact ⟨type, typed, derives⟩

theorem next_iff {template : Tree} (known : inventory.templates.get? name = some template) :
    inventory.Next placement name following ↔
      container? placement inventory.relationships template = some following := by
  unfold Next container?
  rw [known]
  cases listed : (template.get? "relationships").bind Tree.items? with
  | none =>
      simp only [reduceCtorEq, iff_false]
      rintro ⟨_, earlier, relationship, later, ⟨⟩, itsList, _⟩
      rw [Tree.bind_items?_eq_some_iff.mpr itsList] at listed
      contradiction
  | some items =>
      have itsList := Tree.bind_items?_eq_some_iff.mp listed
      simp only [List.findSome?_eq_some_iff, containmentTarget?_eq_some_iff,
        containmentTarget?_eq_none_iff]
      constructor
      · rintro ⟨_, earlier, relationship, later, ⟨⟩, same, contains, first⟩
        cases itsList.symm.trans same
        exact ⟨earlier, relationship, later, rfl, contains, first⟩
      · rintro ⟨earlier, relationship, later, rfl, contains, first⟩
        exact ⟨template, earlier, relationship, later, rfl, itsList, contains, first⟩

theorem Next.known (next : inventory.Next placement name following) :
    ∃ template, inventory.templates.get? name = some template := by
  obtain ⟨template, _, _, _, known, _⟩ := next
  exact ⟨template, known⟩

theorem Next.unique {other : String} (next : inventory.Next placement name following)
    (itsNext : inventory.Next placement name other) : following = other := by
  obtain ⟨template, known⟩ := next.known
  rw [next_iff known] at next itsNext
  exact Option.some.inj (next.symm.trans itsNext)

/-! ## Ways -/

theorem Way.unique {other : String} (way : inventory.Way placement start steps name)
    (itsWay : inventory.Way placement start steps other) : name = other := by
  induction way generalizing other with
  | start =>
      cases itsWay
      rfl
  | next _ next ih =>
      cases itsWay with
      | next itsWay itsNext =>
          cases ih itsWay
          exact next.unique itsNext

/-- A way passes a name after its first steps and goes on from there. -/
theorem way_add_iff {more : Nat} :
    inventory.Way placement start (steps + more) name ↔
      ∃ middle, inventory.Way placement start steps middle ∧
        inventory.Way placement middle more name := by
  induction more generalizing name with
  | zero =>
      constructor
      · intro way
        exact ⟨name, way, .start⟩
      · rintro ⟨middle, way, rest⟩
        cases rest
        exact way
  | succ more ih =>
      constructor
      · intro way
        cases way with
        | next way next =>
            obtain ⟨middle, first, rest⟩ := ih.mp way
            exact ⟨middle, first, rest.next next⟩
      · rintro ⟨middle, first, rest⟩
        cases rest with
        | next rest next => exact (ih.mpr ⟨middle, first, rest⟩).next next

theorem way_succ_iff (next : inventory.Next placement start following) :
    inventory.Way placement start (steps + 1) name ↔
      inventory.Way placement following steps name := by
  rw [Nat.add_comm, way_add_iff]
  constructor
  · rintro ⟨middle, first, rest⟩
    cases Way.unique first (Way.start.next next)
    exact rest
  · intro rest
    exact ⟨following, Way.start.next next, rest⟩

/-! ## First hosts -/

theorem FirstHost.unique {other : String} (first : inventory.FirstHost placement start host)
    (itsFirst : inventory.FirstHost placement start other) : host = other := by
  obtain ⟨steps, way, isHost, before⟩ := first
  obtain ⟨itsSteps, itsWay, itsHost, itsBefore⟩ := itsFirst
  rcases Nat.lt_trichotomy steps itsSteps with less | same | more
  · exact absurd isHost (itsBefore steps less host way).2
  · cases same
    exact way.unique itsWay
  · exact absurd itsHost (before itsSteps more other itsWay).2

/-- A way that meets a host does not come to a dead end before. -/
theorem FirstHost.not_hostless (first : inventory.FirstHost placement start host) :
    ¬ inventory.Hostless placement start := by
  obtain ⟨steps, way, isHost, before⟩ := first
  rintro ⟨last, name, itsWay, deadEnd, none⟩
  have less : last < steps := by
    by_contra notLess
    exact none steps (by omega) host way isHost
  obtain ⟨more, rfl⟩ := Nat.exists_eq_add_of_lt less
  obtain ⟨⟨type, template, known, typed⟩, _⟩ := before last less name itsWay
  cases deadEnd with
  | stops isLast =>
      rw [Nat.add_assoc, Nat.add_comm more, ← Nat.add_assoc, way_add_iff] at way
      obtain ⟨_, next, _⟩ := way
      cases next with
      | next way next =>
          cases way.unique itsWay
          exact isLast _ next
  | leaves unknown =>
      rw [unknown] at known
      contradiction
  | untyped itsKnown untyped =>
      cases known.symm.trans itsKnown
      exact untyped type typed
  | @repeats earlier isEarlier again =>
      -- The way on from the name is taken from its first occurrence already.
      rw [Nat.add_assoc, way_add_iff] at way
      obtain ⟨middle, there, rest⟩ := way
      cases there.unique itsWay
      exact (before (earlier + (more + 1)) (by omega) host (way_add_iff.mpr ⟨_, again, rest⟩)).2
        isHost

/-- A host is its own first host. -/
theorem IsHost.firstHost (isHost : inventory.IsHost placement name) :
    inventory.FirstHost placement name name :=
  ⟨0, .start, isHost, fun _ before => absurd before (Nat.not_lt_zero _)⟩

/-- A template that is not a host has the first host of what it is contained in. -/
theorem firstHost_next_iff (guest : inventory.IsGuest placement name)
    (next : inventory.Next placement name following) :
    inventory.FirstHost placement name host ↔ inventory.FirstHost placement following host := by
  constructor
  · rintro ⟨steps, way, isHost, before⟩
    cases steps with
    | zero =>
        cases way
        exact absurd isHost guest.2
    | succ steps =>
        refine ⟨steps, (way_succ_iff next).mp way, isHost, ?_⟩
        intro earlier less other itsWay
        exact before (earlier + 1) (by omega) other ((way_succ_iff next).mpr itsWay)
  · rintro ⟨steps, way, isHost, before⟩
    refine ⟨steps + 1, (way_succ_iff next).mpr way, isHost, ?_⟩
    intro earlier less other itsWay
    cases earlier with
    | zero =>
        cases itsWay
        exact guest
    | succ earlier => exact before earlier (by omega) other ((way_succ_iff next).mp itsWay)

/-! ## The walk -/

/-- A walk has come to a name after the names that it has met, all of them guests. -/
structure Comes (inventory : Inventory) (placement : HostPlacement) (start : String)
    (met : List String) (name : String) : Prop where
  way : inventory.Way placement start met.length name
  passed : ∀ other ∈ met, ∃ before < met.length, inventory.Way placement start before other
  guests : ∀ before < met.length, ∀ other, inventory.Way placement start before other →
    inventory.IsGuest placement other

variable {met : List String}

theorem Comes.initial : inventory.Comes placement start [] start where
  way := .start
  passed _ member := absurd member List.not_mem_nil
  guests _ before := absurd before (Nat.not_lt_zero _)

/-- The names that a walk passes are those of the way up to a step. -/
theorem Comes.guest_or_here (comes : inventory.Comes placement start met name) {before : Nat}
    (notAfter : before ≤ met.length) {other : String}
    (way : inventory.Way placement start before other) :
    inventory.IsGuest placement other ∨ other = name := by
  rcases Nat.lt_or_eq_of_le notAfter with less | rfl
  · exact .inl (comes.guests before less other way)
  · exact .inr (way.unique comes.way)

theorem Comes.step (comes : inventory.Comes placement start met name)
    (guest : inventory.IsGuest placement name)
    (next : inventory.Next placement name following) :
    inventory.Comes placement start (name :: met) following where
  way := comes.way.next next
  passed other member := by
    rw [List.length_cons]
    rcases List.mem_cons.mp member with rfl | earlier
    · exact ⟨met.length, Nat.lt_succ_self _, comes.way⟩
    · obtain ⟨before, less, way⟩ := comes.passed other earlier
      exact ⟨before, Nat.lt_succ_of_lt less, way⟩
  guests before less other way := by
    rcases comes.guest_or_here (Nat.lt_succ_iff.mp less) way with isGuest | rfl
    · exact isGuest
    · exact guest

theorem Comes.hostless (comes : inventory.Comes placement start met name)
    (deadEnd : inventory.DeadEnd placement start met.length name)
    (notHost : ¬ inventory.IsHost placement name) : inventory.Hostless placement start := by
  refine ⟨met.length, name, comes.way, deadEnd, ?_⟩
  intro before notAfter other way
  rcases comes.guest_or_here notAfter way with isGuest | rfl
  · exact isGuest.2
  · exact notHost

theorem Comes.hostless_of_untyped (comes : inventory.Comes placement start met name)
    {template : Tree} (known : inventory.templates.get? name = some template)
    (untyped : type? template = none) : inventory.Hostless placement start := by
  have notTyped (type : String) : ¬ inventory.Typed name type := by
    rw [typed_iff known, untyped]
    simp
  apply comes.hostless
  · apply DeadEnd.untyped known
    exact fun type typed => notTyped type ⟨template, known, typed⟩
  · exact fun ⟨type, typed, _⟩ => notTyped type typed

/-- A walk with enough steps answers the first host of its way.  Each step either ends it or passes
a guest, and every guest is a template that is passed once. -/
theorem hostFrom_answers {limit : Nat} (comes : inventory.Comes placement start met name)
    (ample : Ample (Entries.keys inventory.templates) limit met) :
    match hostFrom placement inventory.templates inventory.types inventory.relationships limit met
      name with
    | some host => inventory.FirstHost placement start host
    | none => inventory.Hostless placement start := by
  induction limit generalizing met name with
  | zero => exact absurd ample Ample.not_zero
  | succ limit ih =>
      unfold hostFrom
      by_cases again : name ∈ met
      · -- The names that were met are guests, so coming back to one of them ends the way.
        rw [if_pos (List.contains_iff_mem.mpr again)]
        obtain ⟨before, less, way⟩ := comes.passed name again
        exact comes.hostless (.repeats less way) (comes.guests before less name way).2
      rw [if_neg (by simpa using again)]
      cases known : inventory.templates.get? name with
      | none =>
          apply comes.hostless (.leaves known)
          rintro ⟨_, ⟨_, itsKnown, _⟩, _⟩
          rw [known] at itsKnown
          contradiction
      | some template =>
          dsimp only
          cases isType : type? template with
          | none => exact comes.hostless_of_untyped known isType
          | some type =>
              have typed := (typed_iff known).mpr isType
              dsimp only
              by_cases isHost : inventory.IsHost placement name
              · rw [if_pos (derivesFrom_iff.mpr (typed.isHost_iff.mp isHost))]
                exact ⟨met.length, comes.way, isHost, comes.guests⟩
              rw [if_neg fun derives => isHost (typed.isHost_iff.mpr (derivesFrom_iff.mp derives))]
              cases contained : container? placement inventory.relationships template with
              | none =>
                  refine comes.hostless (.stops ?_) isHost
                  intro following next
                  rw [next_iff known, contained] at next
                  contradiction
              | some following =>
                  apply ih (comes.step ⟨⟨type, typed⟩, isHost⟩ ((next_iff known).mpr contained))
                  exact ample.step again (List.mem_map_of_mem (Entries.mem_of_get? known))

theorem hostOf_answers (inventory : Inventory) (placement : HostPlacement) (name : String) :
    match inventory.hostOf placement name with
    | some host => inventory.FirstHost placement name host
    | none => inventory.Hostless placement name := by
  rw [hostOf, ← Entries.length_keys]
  exact hostFrom_answers .initial (.start _)

theorem hostOf_eq_some_iff :
    inventory.hostOf placement name = some host ↔ inventory.FirstHost placement name host := by
  have answers := hostOf_answers inventory placement name
  constructor
  · intro found
    rwa [found] at answers
  · intro first
    split at answers
    · next other found => rw [found, answers.unique first]
    · exact absurd answers first.not_hostless

theorem isHost_of_hostOf (placed : inventory.hostOf placement name = some host) :
    inventory.IsHost placement host := by
  obtain ⟨_, _, isHost, _⟩ := hostOf_eq_some_iff.mp placed
  exact isHost

/-- A guest is on the host of what it is contained in, or both are on none. -/
theorem hostOf_next (guest : inventory.IsGuest placement name)
    (next : inventory.Next placement name following) :
    inventory.hostOf placement name = inventory.hostOf placement following := by
  apply Option.ext
  intro host
  rw [hostOf_eq_some_iff, hostOf_eq_some_iff, firstHost_next_iff guest next]

theorem hostOf_eq_none_iff :
    inventory.hostOf placement name = none ↔ inventory.Hostless placement name := by
  have answers := hostOf_answers inventory placement name
  constructor
  · intro none
    rwa [none] at answers
  · intro hostless
    split at answers
    · exact absurd hostless answers.not_hostless
    · next none => exact none

end

end Inventory

/-! ## Placements -/

/-- The host that placements name for a template, or null. -/
def hostId? (placements : Tree) (name : String) : Option Tree :=
  (placements.get? name).bind (·.get? "host_id")

theorem hostId?_placements (placement : HostPlacement) {plan : Plan} {name : String}
    (isTemplate : name ∈ Entries.keys (Inventory.ofPlan plan).templates) :
    hostId? (placement.placements plan) name =
      some ((((Inventory.ofPlan plan).hostOf placement name).map Tree.string).getD .null) := by
  obtain ⟨template, known⟩ := Option.isSome_iff_exists.mp ((Entries.mem_keys_iff _ _).mp isTemplate)
  rw [hostId?, HostPlacement.get?_placements, known]
  exact Inventory.get?_equipped_host _ placement name template

theorem isTemplate_of_hostId? {placement : HostPlacement} {plan : Plan} {name : String}
    {host : Tree} (named : hostId? (placement.placements plan) name = some host) :
    name ∈ Entries.keys (Inventory.ofPlan plan).templates := by
  rw [hostId?, HostPlacement.get?_placements] at named
  obtain ⟨_, placed, _⟩ := Option.bind_eq_some_iff.mp named
  obtain ⟨template, known, _⟩ := Option.map_eq_some_iff.mp placed
  exact List.mem_map_of_mem (Entries.mem_of_get? known)

/-- Placements that name the hosts of templates. -/
structure Inventory.PlacesHosts (inventory : Inventory) (placement : HostPlacement)
    (placements : Tree) : Prop where
  /-- Node templates have a placement, and nothing else has. -/
  keys : ∃ entries, placements = .mapping entries ∧
    Entries.keys entries = Entries.keys inventory.templates
  /-- A template is on the first host on its way. -/
  host_iff : ∀ name ∈ Entries.keys inventory.templates, ∀ host,
    hostId? placements name = some (.string host) ↔ inventory.FirstHost placement name host
  /-- It is on none if its way comes to a dead end before. -/
  null_iff : ∀ name ∈ Entries.keys inventory.templates,
    hostId? placements name = some .null ↔ inventory.Hostless placement name
  /-- There is no third case. -/
  either : ∀ name ∈ Entries.keys inventory.templates, hostId? placements name = some .null ∨
    ∃ host, hostId? placements name = some (.string host)
  /-- What is named as a host is a template on itself. -/
  settled : ∀ name host, hostId? placements name = some (.string host) →
    host ∈ Entries.keys inventory.templates ∧ hostId? placements host = some (.string host)
  /-- A guest is on the host of the template in which it is contained. -/
  shared : ∀ name following, inventory.IsGuest placement name →
    inventory.Next placement name following → following ∈ Entries.keys inventory.templates →
    hostId? placements name = hostId? placements following

end Placement

open Placement Placement.Inventory in
/-- Placements name the first host on the way of each template, also if containment or derivation
run in circles or out of what is declared. -/
theorem HostPlacement.placements_hosts (placement : HostPlacement) (plan : Plan) :
    (Inventory.ofPlan plan).PlacesHosts placement (placement.placements plan) := by
  have named {name host : String} (isTemplate : name ∈ Entries.keys (ofPlan plan).templates) :
      hostId? (placement.placements plan) name = some (.string host) ↔
        (ofPlan plan).hostOf placement name = some host := by
    rw [hostId?_placements placement isTemplate]
    cases (ofPlan plan).hostOf placement name <;> simp
  have unnamed {name : String} (isTemplate : name ∈ Entries.keys (ofPlan plan).templates) :
      hostId? (placement.placements plan) name = some .null ↔
        (ofPlan plan).hostOf placement name = none := by
    rw [hostId?_placements placement isTemplate]
    cases (ofPlan plan).hostOf placement name <;> simp
  constructor
  case keys =>
    rw [placements_eq]
    exact ⟨_, rfl, Entries.keys_mapValues _ _⟩
  case host_iff => exact fun name isTemplate host => (named isTemplate).trans hostOf_eq_some_iff
  case null_iff => exact fun name isTemplate => (unnamed isTemplate).trans hostOf_eq_none_iff
  case either =>
    intro name isTemplate
    rw [unnamed isTemplate, exists_congr fun _ => named isTemplate]
    cases (ofPlan plan).hostOf placement name <;> simp
  case settled =>
    intro name host isNamed
    have isOn := (named (isTemplate_of_hostId? isNamed)).mp isNamed
    have isHost := isHost_of_hostOf isOn
    exact ⟨isHost.isTemplate,
      (named isHost.isTemplate).mpr (hostOf_eq_some_iff.mpr isHost.firstHost)⟩
  case shared =>
    intro name following guest next isTemplate
    obtain ⟨type, typed⟩ := guest.1
    rw [hostId?_placements placement typed.isTemplate, hostId?_placements placement isTemplate,
      hostOf_next guest next]

/-- A template of a type, in others by relationships of given types. -/
def roomTemplate (type : String) (inside : List (String × String)) : Tree :=
  .mapping [("relationships", .sequence (inside.map fun relationship =>
      .mapping [("target", .string relationship.2), ("type", .string relationship.1)])),
    ("type", .string type)]

/-- A shelf in a room in a house, and two boxes in one another.  Types derive in a circle. -/
def housePlan : Plan where
  sections := Dict.ofList
    [("node_templates", .mapping
        [("box", roomTemplate "room" [("in", "chest")]),
          ("chest", roomTemplate "room" [("in", "box")]),
          ("house", roomTemplate "house" []), ("kitchen", roomTemplate "room" [("in", "house")]),
          ("shelf", roomTemplate "room" [("near", "box"), ("in", "kitchen")])]),
      ("node_types", .mapping
        [("house", .mapping [("derived_from", .string "site")]),
          ("room", .mapping [("derived_from", .string "part")]),
          ("part", .mapping [("derived_from", .string "room")])]),
      ("relationships", .mapping [("in", .mapping [("derived_from", .string "contained_in")])])]

/-- The shelf is on the house, through the kitchen, and the boxes are on nothing. -/
theorem HostPlacement.placements_house :
    let placement : HostPlacement := ⟨"site", "contained_in", "host_agent"⟩
    let inventory := Placement.Inventory.ofPlan housePlan
    inventory.FirstHost placement "shelf" "house" ∧ inventory.Hostless placement "box" ∧
      Placement.hostId? (placement.placements housePlan) "house" = some (.string "house") := by
  intro placement inventory
  have places := placement.placements_hosts housePlan
  have shelf : Placement.hostId? (placement.placements housePlan) "shelf" =
      some (.string "house") := rfl
  have box : Placement.hostId? (placement.placements housePlan) "box" = some .null := rfl
  exact ⟨(places.host_iff "shelf" (by decide) "house").mp shelf,
    (places.null_iff "box" (by decide)).mp box, (places.settled "shelf" "house" shelf).2⟩

end Blueprint
