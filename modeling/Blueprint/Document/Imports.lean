import Blueprint.Document.Merge
import Blueprint.Json.Printer

/-!
# Collecting imports

A document lists the documents that it imports.  `Imports.collect` follows these
lists depth first and puts each document after those that it imports and before
the documents that come later in the list, the main document last.  This is the
order in which `merge` takes them.

Each reference is resolved once, and the name of the main document never.  A
resolver knows all references that its documents mention, which bounds the walk.
-/

namespace Blueprint

/-- Why an import cannot be followed. -/
inductive ResolveError where
  /-- There is no such document. -/
  | notFound (reference : String)
  /-- An item of an import list is no string, or the list is no list. -/
  | invalidImport (reference : String)
  /-- The document is there but cannot be read. -/
  | failed (reference reason : String)
deriving DecidableEq

/-- The text of an error. -/
def ResolveError.message : ResolveError → String
  | .notFound reference => "import not found: " ++ reference
  | .invalidImport reference => "invalid import entry: " ++ reference
  | .failed reference reason => "failed to resolve import '" ++ reference ++ "': " ++ reason

namespace Imports

/-- The key under which a document lists its imports. -/
def key : String := "imports"

/-- The references in an import list. -/
def references : List Tree → Except ResolveError (List String)
  | [] => .ok []
  | entry :: rest =>
      match entry with
      | .string reference =>
          match references rest with
          | .error cause => .error cause
          | .ok others => .ok (reference :: others)
      | other => .error (.invalidImport (Json.text other))

/-- The references that a document imports. -/
def ofTree (tree : Tree) : Except ResolveError (List String) :=
  match tree.get? key with
  | none | some .null => .ok []
  | some (.sequence entries) => references entries
  | some other => .error (.invalidImport (Json.text other))

/-- A document without its import list. -/
def strip : Tree → Tree
  | .mapping entries => .mapping (Entries.erase entries key)
  | other => other

/-- The references that a document imports, none if its list is invalid. -/
def mentioned (tree : Tree) : List String :=
  match ofTree tree with
  | .ok references => references
  | .error _ => []

end Imports

/-- A way to find documents. -/
structure Resolver where
  /-- The document of a reference. -/
  resolve : String → Except ResolveError Tree
  /-- All references that its documents mention. -/
  mentions : List String
  /-- No document mentions another reference. -/
  closed : ∀ reference tree, resolve reference = .ok tree →
    ∀ mention ∈ Imports.mentioned tree, mention ∈ mentions

namespace Imports

/-- How far a walk has come. -/
structure Walk where
  /-- The references met so far and the name of the main document, the latest
  first. -/
  visited : List String
  /-- The documents that are complete, the latest first. -/
  finished : List Source
  /-- The references with which the resolver was called, the latest first. -/
  calls : List String

namespace Walk

/-- The walk at the main document. -/
def start (main : Source) : Walk :=
  ⟨[main.id], [], []⟩

/-- Meet a reference. -/
def meet (walk : Walk) (reference : String) : Walk :=
  { walk with visited := reference :: walk.visited }

/-- Call the resolver and log the call, whatever it answers. -/
def call (walk : Walk) (resolver : Resolver) (reference : String) :
    Except ResolveError Tree × Walk :=
  (resolver.resolve reference, { walk with calls := reference :: walk.calls })

end Walk

/-- A walk that goes on, or the reason and place at which it ended. -/
abbrev Progress := Except (ResolveError × Walk) Walk

/-- The walk as far as it came. -/
def Progress.last : Progress → Walk
  | .error (_, walk) => walk
  | .ok walk => walk

/-- Follow the imports of a document.  A chain of imports without repetition is no
longer than the number of references, which `levels` counts down from. -/
def follow (resolver : Resolver) : (levels : Nat) → Tree → Walk → Progress
  | 0, _, walk => .ok walk
  | levels + 1, tree, walk =>
      match ofTree tree with
      | .error cause => .error (cause, walk)
      | .ok references =>
          references.foldlM
            (fun walk reference =>
              if walk.visited.contains reference then .ok walk
              else
                let (answer, called) := (walk.meet reference).call resolver reference
                match answer with
                | .error cause => .error (cause, called)
                | .ok imported =>
                    match follow resolver levels imported called with
                    | .error failure => .error failure
                    | .ok walk =>
                        .ok { walk with finished := ⟨reference, strip imported⟩ :: walk.finished })
            walk

/-- The walk from a main document. -/
def walk (main : Source) (resolver : Resolver) : Progress :=
  follow resolver (resolver.mentions.length + (mentioned main.tree).length + 2) main.tree
    (.start main)

/-- The documents that a main document imports, in merge order, and itself last.
Imported documents lose their import lists, the main document keeps its own. -/
def collect (main : Source) (resolver : Resolver) : Except ResolveError (List Source) :=
  match walk main resolver with
  | .error (cause, _) => .error cause
  | .ok walk => .ok (walk.finished.reverse ++ [main])

/-- The references with which the resolver is called on the way, in order. -/
def resolved (main : Source) (resolver : Resolver) : List String :=
  (walk main resolver).last.calls.reverse

end Imports

namespace Resolver

/-- The resolver of documents that are held under their references. -/
def ofDocuments (documents : Dict Tree) : Resolver where
  resolve reference :=
    match documents.get? reference with
    | some tree => .ok tree
    | none => .error (.notFound reference)
  mentions := documents.values.flatMap Imports.mentioned
  closed := by
    intro reference tree found mention member
    have held : documents.get? reference = some tree := by
      cases present : documents.get? reference with
      | none => simp [present] at found
      | some other => simpa [present] using found
    exact List.mem_flatMap.2 ⟨tree, Entries.mem_values_of_get? held, member⟩

end Resolver

end Blueprint
