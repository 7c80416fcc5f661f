import Blueprint.Files.Loading
import Blueprint.Proofs.Document.Collecting

/-!
# Trees that were read are ordered

Keys that are read are put in their place, so every mapping of a tree that was read
from a text has ascending keys: `Json.read?_ordered`, `Yaml.read?_ordered` and, for
files, `Files.load_ordered`.

A JSON text is read token by token, and each token keeps ordered what is open
(`Json.Reading.Ordered.next`).  The tree of a YAML node is made of the trees of its
parts, which nest less deeply.
-/

namespace Blueprint

namespace Tree

theorem ordered_mapping_nil : (mapping []).Ordered :=
  ⟨List.Pairwise.nil, trivial⟩

theorem ordered_mapping_iff {entries : Entries Tree} :
    (mapping entries).Ordered ↔ entries.Ascending ∧ ∀ entry ∈ entries, entry.2.Ordered := by
  have each : OrderedEntries entries ↔ ∀ entry ∈ entries, entry.2.Ordered :=
    orderedEntries_iff.trans List.forall_mem_map
  rw [← each]
  rfl

theorem Ordered.insert {entries : Entries Tree} {value : Tree}
    (ordered : (mapping entries).Ordered) (key : String) (itsOrdered : value.Ordered) :
    (mapping (entries.insert key value)).Ordered := by
  rw [ordered_mapping_iff] at ordered ⊢
  constructor
  · exact ordered.1.insert key value
  · intro entry member
    rcases Entries.mem_insert member with rfl | before
    · exact itsOrdered
    · exact ordered.2 entry before

/-- Entries that are put in their places make an ordered mapping. -/
theorem ordered_insertAll {added : List (String × Tree)}
    (each : ∀ entry ∈ added, entry.2.Ordered) : (mapping (Entries.insertAll [] added)).Ordered := by
  rw [ordered_mapping_iff]
  constructor
  · exact Entries.Ascending.insertAll List.Pairwise.nil added
  · intro entry member
    exact each entry ((Entries.mem_insertAll member).resolve_right List.not_mem_nil)

/-- Without one of its entries a mapping stays ordered. -/
theorem Ordered.strip {tree : Tree} (ordered : tree.Ordered) : (Imports.strip tree).Ordered := by
  cases tree with
  | mapping entries =>
      change (mapping (Entries.erase entries Imports.key)).Ordered
      rw [ordered_mapping_iff] at ordered ⊢
      constructor
      · exact ordered.1.filterKeys _
      · exact fun entry member => ordered.2 entry (List.mem_of_mem_filter member)
  | _ => exact ordered

end Tree

/-! ## JSON -/

namespace Json

/-- Everything in a collection that is still open is ordered. -/
def Frame.Ordered : Frame → Prop
  | .sequence items => ∀ item ∈ items, item.Ordered
  | .mapping entries _ => (Tree.mapping entries).Ordered

/-- Everything that an expectation holds is ordered. -/
def Expectation.Ordered : Expectation → Prop
  | .value | .valueOrClose | .keyOrClose => True
  | .key entries | .colon entries _ | .mappingMark entries => (Tree.mapping entries).Ordered
  | .sequenceMark items => ∀ item ∈ items, item.Ordered
  | .done tree => tree.Ordered

/-- Everything that has been read is ordered. -/
structure Reading.Ordered (reading : Reading) : Prop where
  frames : ∀ frame ∈ reading.frames, frame.Ordered
  expects : reading.expects.Ordered

namespace Reading

theorem complete_ordered {frames : List Frame} {value : Tree}
    (each : ∀ frame ∈ frames, frame.Ordered) (ordered : value.Ordered) :
    (complete frames value).Ordered := by
  cases frames with
  | nil => exact ⟨each, ordered⟩
  | cons frame outer =>
      rw [List.forall_mem_cons] at each
      cases frame with
      | sequence items => exact ⟨each.2, List.forall_mem_cons.mpr ⟨ordered, each.1⟩⟩
      | mapping entries key => exact ⟨each.2, Tree.Ordered.insert each.1 key ordered⟩

theorem begin_ordered {frames : List Frame} {token : Token} {next : Reading}
    (each : ∀ frame ∈ frames, frame.Ordered) (read : begin frames token = some next) :
    next.Ordered := by
  cases token with
  | null | bool _ | number _ | string _ =>
      cases read
      exact complete_ordered each trivial
  | openSequence | openMapping =>
      simp only [begin, Option.ite_none_right_eq_some] at read
      obtain ⟨_, same⟩ := read
      cases same
      exact ⟨each, trivial⟩
  | _ => contradiction

theorem next_valueOrClose (frames : List Frame) {token : Token} (other : token ≠ .closeSequence) :
    next ⟨frames, .valueOrClose⟩ token = begin (.sequence [] :: frames) token := by
  cases token with
  | closeSequence => contradiction
  | _ => rfl

/-- A token keeps ordered what has been read. -/
theorem Ordered.next {reading next : Reading} {token : Token} (ordered : reading.Ordered)
    (read : reading.next token = some next) : next.Ordered := by
  obtain ⟨frames, expects⟩ := reading
  obtain ⟨each, held⟩ := ordered
  dsimp only at each
  have within {frame : Frame} (inner : frame.Ordered) : ∀ other ∈ frame :: frames, other.Ordered :=
    List.forall_mem_cons.mpr ⟨inner, each⟩
  cases expects with
  | value => exact begin_ordered each read
  | valueOrClose =>
      have empty : (Frame.sequence []).Ordered := fun _ member => absurd member List.not_mem_nil
      by_cases closed : token = .closeSequence
      · subst closed
        cases read
        exact complete_ordered each trivial
      · rw [next_valueOrClose frames closed] at read
        exact begin_ordered (within empty) read
  | key entries =>
      cases token with
      | string key =>
          cases read
          exact ⟨each, held⟩
      | _ => contradiction
  | keyOrClose =>
      cases token with
      | string key =>
          cases read
          exact ⟨each, Tree.ordered_mapping_nil⟩
      | closeMapping =>
          cases read
          exact complete_ordered each Tree.ordered_mapping_nil
      | _ => contradiction
  | colon entries key =>
      cases token with
      | colon =>
          cases read
          exact ⟨within held, trivial⟩
      | _ => contradiction
  | sequenceMark items =>
      cases token with
      | comma =>
          cases read
          exact ⟨within held, trivial⟩
      | closeSequence =>
          cases read
          apply complete_ordered each
          exact Tree.orderedAll_iff.mpr fun item member => held item (List.mem_reverse.mp member)
      | _ => contradiction
  | mappingMark entries =>
      cases token with
      | comma =>
          cases read
          exact ⟨each, held⟩
      | closeMapping =>
          cases read
          exact complete_ordered each held
      | _ => contradiction
  | done tree => contradiction

/-- Whatever is read after ordered parts is ordered. -/
theorem Ordered.foldlM {reading last : Reading} {tokens : List Token} (ordered : reading.Ordered)
    (read : tokens.foldlM Reading.next reading = some last) : last.Ordered := by
  induction tokens generalizing reading with
  | nil =>
      cases read
      exact ordered
  | cons token rest ih =>
      rw [List.foldlM_cons, Option.bind_eq_bind, Option.bind_eq_some_iff] at read
      obtain ⟨middle, first, others⟩ := read
      exact ih (ordered.next first) others

end Reading

/-- The tree of a JSON text is ordered. -/
theorem read?_ordered {text : String} {tree : Tree} (read : read? text = some tree) :
    tree.Ordered := by
  simp only [read?, Option.bind_eq_bind, Option.bind_eq_some_iff] at read
  obtain ⟨tokens, _, reading, consumed, result⟩ := read
  have start : Reading.Ordered ⟨[], .value⟩ :=
    ⟨fun _ member => absurd member List.not_mem_nil, trivial⟩
  have ordered := (start.foldlM consumed).expects
  split at result
  · next held =>
      cases result
      rw [held] at ordered
      exact ordered
  · contradiction

end Json

/-! ## YAML -/

namespace Yaml

/-- Whatever a computation answers has a property. -/
structure Answers {α : Type} (motive : α → Prop) (computation : StateT Nat Option α) : Prop where
  holds : ∀ {left value rest}, computation.run left = some (value, rest) → motive value

section

variable {α β : Type} {motive : β → Prop}

theorem answers_pure {value : β} (holds : motive value) :
    Answers motive (pure value : StateT Nat Option β) := by
  constructor
  intro left answer rest answered
  cases answered
  exact holds

theorem answers_failure : Answers motive (failure : StateT Nat Option β) := by
  constructor
  intro left answer rest answered
  contradiction

theorem answers_lift {result : Option β} (holds : ∀ value, result = some value → motive value) :
    Answers motive (StateT.lift result : StateT Nat Option β) := by
  constructor
  intro left answer rest answered
  cases result with
  | none => contradiction
  | some value =>
      cases answered
      exact holds answer rfl

theorem answers_bind {first : StateT Nat Option α} {second : α → StateT Nat Option β}
    {held : α → Prop} (firstAnswers : Answers held first)
    (secondAnswers : ∀ value, held value → Answers motive (second value)) :
    Answers motive (first >>= second) := by
  constructor
  intro left answer rest answered
  rw [StateT.run_bind, Option.bind_eq_bind, Option.bind_eq_some_iff] at answered
  obtain ⟨⟨value, middle⟩, isFirst, isSecond⟩ := answered
  exact (secondAnswers value (firstAnswers.holds isFirst)).holds isSecond

theorem answers_mapM {items : List α} {read : α → StateT Nat Option β}
    (each : ∀ item, Answers motive (read item)) :
    Answers (fun values => ∀ value ∈ values, motive value) (items.mapM read) := by
  induction items with
  | nil => exact answers_pure fun _ member => absurd member List.not_mem_nil
  | cons item rest ih =>
      rw [List.mapM_cons]
      apply answers_bind (each item)
      intro value holds
      apply answers_bind ih
      intro values others
      apply answers_pure
      exact List.forall_mem_cons.mpr ⟨holds, others⟩

theorem answers_any (computation : StateT Nat Option α) : Answers (fun _ => True) computation :=
  ⟨fun _ => trivial⟩

end

theorem float?_ordered {text : String} {tree : Tree} (read : float? text = some tree) :
    tree.Ordered := by
  unfold float? at read
  split at read
  · cases read
    trivial
  · obtain ⟨value, _, rfl⟩ := Option.map_eq_some_iff.mp read
    trivial

theorem plainTree?_ordered {text : String} {tree : Tree} (read : plainTree? text = some tree) :
    tree.Ordered := by
  unfold plainTree? at read
  split at read
  · cases read
    trivial
  · split at read
    · cases read
      trivial
    · split at read
      · cases read
        trivial
      · contradiction
      · cases read
        cases isFloat : (if hasLeadingZero text.toList then none else float? text) with
        | none => trivial
        | some value =>
            rw [Option.ite_none_left_eq_some] at isFloat
            exact float?_ordered isFloat.2

/-- A scalar is no mapping. -/
theorem scalarTree?_ordered {tag : Option Tag} {text : String} {plain : Bool} {tree : Tree}
    (read : scalarTree? tag text plain = some tree) : tree.Ordered := by
  unfold scalarTree? at read
  split at read
  · split at read
    · exact plainTree?_ordered read
    · cases read
      trivial
  · split at read
    · split at read
      · cases read
        trivial
      · contradiction
    · obtain ⟨value, _, rfl⟩ := Option.map_eq_some_iff.mp read
      trivial
    · exact float?_ordered read
    · split at read
      · cases read
        trivial
      · contradiction
    · split at read
      · contradiction
      · split at read
        · exact plainTree?_ordered read
        · cases read
          trivial

/-- The tree of a node is ordered. -/
theorem Node.tree_ordered (document : Node) (depth : Nat) (node : Node) :
    Answers Tree.Ordered (tree document depth node) := by
  induction depth generalizing node with
  | zero =>
      unfold tree
      apply answers_bind (answers_any _)
      rintro target -
      cases target with
      | scalar own text plain => exact answers_lift fun _ => scalarTree?_ordered
      | _ => exact answers_failure
  | succ depth ih =>
      unfold tree
      apply answers_bind (answers_any _)
      rintro target -
      cases target with
      | scalar own text plain => exact answers_lift fun _ => scalarTree?_ordered
      | sequence own items =>
          dsimp only
          split
          · exact answers_failure
          · apply answers_bind (answers_mapM ih)
            exact fun values each => answers_pure (Tree.orderedAll_iff.mpr each)
      | mapping own entries =>
          dsimp only
          split
          · exact answers_failure
          · -- Entries are read with their values, then each one is put in its place.
            apply answers_bind (answers_mapM (motive := fun entry => entry.2.Ordered) _)
            · exact fun added each => answers_pure (Tree.ordered_insertAll each)
            · rintro ⟨key, value⟩
              apply answers_bind (answers_any _)
              rintro name -
              apply answers_bind (answers_any _)
              rintro text -
              apply answers_bind (ih value)
              exact fun part ordered => answers_pure ordered
      | _ => exact answers_failure

/-- The tree of a YAML text is ordered. -/
theorem read?_ordered {text : String} {tree : Tree} (read : read? text = some tree) :
    tree.Ordered := by
  rw [read?, Option.bind_eq_some_iff] at read
  obtain ⟨document, _, result⟩ := read
  cases document with
  | none =>
      cases result
      trivial
  | some document =>
      simp only [Node.toTree?, StateT.run', Option.map_eq_map, Option.map_eq_some_iff] at result
      obtain ⟨⟨_, rest⟩, answered, rfl⟩ := result
      exact (Node.tree_ordered document Node.depthLimit document).holds answered

end Yaml

/-! ## Files -/

theorem Format.load_ordered {format : Format} {text : String} {tree : Tree}
    (loaded : format.load text = .ok tree) : tree.Ordered := by
  unfold load at loaded
  split at loaded
  · next read =>
      cases loaded
      cases format with
      | json => exact Json.read?_ordered read
      | yaml => exact Yaml.read?_ordered read
  · contradiction

/-- Documents that are loaded from files are ordered. -/
theorem Files.load_ordered {files : Files} {path : String} {tree : Tree}
    (loaded : files.load path = .ok tree) : tree.Ordered := by
  unfold load at loaded
  split at loaded
  · cases loaded
  · split at loaded
    · cases loaded
    · exact Format.load_ordered loaded
    · cases loaded

theorem Files.resolver_ordered (files : Files) (base reference : String) (tree : Tree)
    (resolved : (files.resolver base).resolve reference = .ok tree) : tree.Ordered := by
  change files.resolve base reference = .ok tree at resolved
  unfold resolve at resolved
  split at resolved
  · cases resolved
  · dsimp only at resolved
    split at resolved
    · split at resolved
      · cases resolved
      · next loaded =>
          cases resolved
          exact Files.load_ordered loaded
    · cases resolved

/-- Documents that are collected with the help of a resolver are ordered, if those that it finds
are. -/
theorem Imports.collect_ordered {main : Source} {resolver : Resolver} {sources : List Source}
    (mainOrdered : main.tree.Ordered)
    (found : ∀ reference tree, resolver.resolve reference = .ok tree → tree.Ordered)
    (collected : collect main resolver = .ok sources) :
    ∀ source ∈ sources, source.tree.Ordered := by
  unfold collect at collected
  split at collected
  · cases collected
  · next walk done =>
      cases collected
      have whole := walk_ok_iff.mp done
      intro source member
      rcases List.mem_append.mp member with imported | isMain
      · obtain ⟨_, _, _, tree, _, _, isFound, _, stripped, _⟩ :=
          whole.completed (List.mem_reverse.mp imported)
        rw [stripped]
        exact (found source.id tree isFound).strip
      · rw [List.mem_singleton.mp isMain]
        exact mainOrdered

theorem Files.source_ordered {files : Files} {path : String} {source : Source}
    (loaded : files.source path = .ok source) : source.tree.Ordered := by
  unfold Files.source at loaded
  generalize isTree : files.load path = loading at loaded
  cases loading with
  | error cause => cases loaded
  | ok tree =>
      cases loaded
      exact Files.load_ordered isTree

/-- A document in a file and all that it imports from files are ordered. -/
theorem Files.collect_ordered {files : Files} {path base : String} {main : Source}
    {sources : List Source} (loaded : files.source path = .ok main)
    (collected : Imports.collect main (files.resolver base) = .ok sources) :
    ∀ source ∈ sources, source.tree.Ordered :=
  Imports.collect_ordered (Files.source_ordered loaded) (files.resolver_ordered base) collected

end Blueprint
