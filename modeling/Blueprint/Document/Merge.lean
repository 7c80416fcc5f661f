import Blueprint.Document.Policy
import Blueprint.Tree

/-!
# Merging documents

A document and everything that it imports are merged key by key into one mapping,
in the order in which the documents are listed.  Null contributions count as
absent.  Content is compared with `Tree.agrees`.

For each key the documents that contributed are kept beside the combined value, and
for entries that must not be overridden the documents that declared them, so that a
conflict can name the documents that take part in it.
-/

namespace Blueprint

/-- A document with the name under which it was found. -/
structure Source where
  /-- The name of the document. -/
  id : String
  /-- Its content. -/
  tree : Tree

/-- Why documents cannot be merged. -/
inductive MergeError where
  /-- Documents declare a key, or an entry under it, with different content. -/
  | duplicateDefinition (key : String) (entry : Option String) (documents : List String)
  /-- Contributions to a union disagree, in an entry or as a whole. -/
  | unionConflict (key : String) (entry : Option String) (documents : List String)
  /-- A document is no mapping. -/
  | notAMapping (document : String) (found : Shape)
deriving DecidableEq

namespace MergeError

/-- A key, or an entry under it. -/
def qualified (key : String) (entry : Option String) : String :=
  match entry with
  | none => key
  | some entry => key ++ "." ++ entry

/-- The text of an error. -/
def message : MergeError → String
  | .duplicateDefinition key entry documents =>
      "duplicate definition for '" ++ qualified key entry ++ "' in " ++ ", ".intercalate documents
  | .unionConflict key entry documents =>
      "union conflict for '" ++ qualified key entry ++ "' in " ++ ", ".intercalate documents
  | .notAMapping document found =>
      "document '" ++ document ++ "' must be a mapping, found " ++ found.name

end MergeError

namespace Merge

/-- Join entries to those of a mapping.  An entry that is there already must
agree; the answer is otherwise the first one that does not. -/
def join (current : Entries Tree) : List (String × Tree) → Except String (Entries Tree)
  | [] => .ok current
  | (entry, body) :: rest =>
      match current.get? entry with
      | some declared => if declared.agrees body then join current rest else .error entry
      | none => join (current.insert entry body) rest

/-- Combine the value of a key with a further contribution.  A clash is in an
entry or between the values as a whole. -/
def combine (policy : Policy) (existing incoming : Tree) : Except (Option String) Tree :=
  match policy, existing, incoming with
  | .override, _, incoming => .ok incoming
  | .mergeUnion, .sequence current, .sequence added => .ok (.sequence (current ++ added))
  | _, .mapping current, .mapping added =>
      match join current added with
      | .ok joined => .ok (.mapping joined)
      | .error entry => .error (some entry)
  | _, existing, incoming => if existing.agrees incoming then .ok existing else .error none

/-- The state of a key. -/
structure Slot where
  /-- The combined value. -/
  value : Tree
  /-- The documents that contributed, in order. -/
  documents : List String
  /-- The documents that declared the entries of the value. -/
  owners : Dict String

/-- Record a document as the owner of those of its entries that are not declared
yet.  Owners are recorded only where nothing may be overridden. -/
def claim (policy : Policy) (document : String) (owners : Dict String) (declared incoming : Tree) :
    Dict String :=
  match policy, incoming with
  | .mergeNoOverride, .mapping added =>
      let fresh := Entries.filterKeys added fun entry => (declared.get? entry).isNone
      owners.insertAll (Entries.mapValues (fun _ _ => document) fresh)
  | _, _ => owners

/-- The state of a key after its first contribution. -/
def Slot.first (policy : Policy) (document : String) (value : Tree) : Slot :=
  ⟨value, [document], claim policy document ∅ .null value⟩

/-- The state of a key after a further contribution, given the new combined value. -/
def Slot.extend (slot : Slot) (policy : Policy) (document : String) (incoming combined : Tree) :
    Slot :=
  ⟨combined, slot.documents ++ [document], claim policy document slot.owners slot.value incoming⟩

/-- The document that declared an entry: the one that is recorded, or else all that
contributed. -/
def Slot.owner (slot : Slot) (entry : String) : String :=
  (slot.owners.get? entry).getD (", ".intercalate slot.documents)

/-- The error for a clash of a document with the earlier contributions to a key. -/
def blame (policy : Policy) (key document : String) (slot : Slot) (clash : Option String) :
    MergeError :=
  let everyone := slot.documents ++ [document]
  match policy, clash with
  | .mergeUnion, clash => .unionConflict key clash everyone
  | _, none => .duplicateDefinition key none everyone
  | _, some entry => .duplicateDefinition key (some entry) [slot.owner entry, document]

/-- Add the contribution of a document to a key. -/
def contribute (table : PolicyTable) (document : String) (state : Dict Slot) (key : String)
    (value : Tree) : Except MergeError (Dict Slot) :=
  if value.isNull then .ok state
  else
    let policy := table.policyFor key
    match state.get? key with
    | none => .ok (state.insert key (.first policy document value))
    | some slot =>
        match combine policy slot.value value with
        | .ok combined => .ok (state.insert key (slot.extend policy document value combined))
        | .error clash => .error (blame policy key document slot clash)

/-- Add the contributions of a document in key order. -/
def contributeAll (table : PolicyTable) (document : String) (state : Dict Slot) :
    List (String × Tree) → Except MergeError (Dict Slot)
  | [] => .ok state
  | (key, value) :: rest =>
      match contribute table document state key value with
      | .error cause => .error cause
      | .ok state => contributeAll table document state rest

/-- Add a document, which is a mapping or null. -/
def addSource (table : PolicyTable) (state : Dict Slot) (source : Source) :
    Except MergeError (Dict Slot) :=
  match source.tree with
  | .mapping entries => contributeAll table source.id state entries
  | .null => .ok state
  | other => .error (.notAMapping source.id other.shape)

/-- Add documents in order. -/
def addSources (table : PolicyTable) (state : Dict Slot) :
    List Source → Except MergeError (Dict Slot)
  | [] => .ok state
  | source :: rest =>
      match addSource table state source with
      | .error cause => .error cause
      | .ok state => addSources table state rest

/-- The combined values of all keys. -/
def result (state : Dict Slot) : Tree :=
  .mapping (state.mapValues fun _ slot => slot.value).entries

end Merge

/-- Merge documents in order into one mapping. -/
def merge (sources : List Source) (table : PolicyTable) : Except MergeError Tree :=
  match Merge.addSources table ∅ sources with
  | .error cause => .error cause
  | .ok state => .ok (Merge.result state)

end Blueprint
