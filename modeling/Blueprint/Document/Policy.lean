import Blueprint.Dict

/-!
# Merge policies

A policy says how the contributions of several documents to one top-level key are
combined.  A table gives keys their policies and has a default for the others.
-/

namespace Blueprint

/-- How contributions to a key are combined. -/
inductive Policy where
  /-- The latest contribution wins. -/
  | override
  /-- Mappings are joined; nothing may be declared with different content. -/
  | mergeNoOverride
  /-- Sequences are appended and mappings are joined. -/
  | mergeUnion
deriving DecidableEq

/-- The policies of top-level keys. -/
structure PolicyTable where
  /-- The policy of keys without an entry. -/
  defaultPolicy : Policy
  /-- The policies of single keys. -/
  policies : Dict Policy
deriving DecidableEq

namespace PolicyTable

/-- The table by which everything overrides. -/
def empty : PolicyTable :=
  ⟨.override, ∅⟩

instance : Inhabited PolicyTable :=
  ⟨empty⟩

/-- The policy of a key. -/
def policyFor (table : PolicyTable) (key : String) : Policy :=
  (table.policies.get? key).getD table.defaultPolicy

/-- Set the policy of a key. -/
def set (table : PolicyTable) (key : String) (policy : Policy) : PolicyTable :=
  { table with policies := table.policies.insert key policy }

/-- Set the policies of several keys in order. -/
def setAll (table : PolicyTable) (policies : List (String × Policy)) : PolicyTable :=
  { table with policies := table.policies.insertAll policies }

/-- Set the policy of keys without an entry. -/
def withDefault (table : PolicyTable) (policy : Policy) : PolicyTable :=
  { table with defaultPolicy := policy }

/-- Forbid some keys to be overridden. -/
def registerNoOverride (table : PolicyTable) (keys : List String) : PolicyTable :=
  table.setAll (keys.map fun key => (key, .mergeNoOverride))

end PolicyTable

end Blueprint
