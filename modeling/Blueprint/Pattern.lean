import Blueprint.Pattern.Matching
import Blueprint.Pattern.Program
import Blueprint.Pattern.Reader

/-!
# Patterns

A pattern is prepared before texts are searched for it.  It has to be well formed,
and its programs must not be too long.

Schemas and documents rely on `source_of_compile?` alone: whatever texts are patterns
and whatever they match, what is proved of freezing and validation stays as it is.
Both functions are sealed for that reason.
-/

namespace Blueprint

/-- A pattern that is ready to be searched for. -/
structure Pattern where
  /-- The pattern as written. -/
  source : String
  /-- What it denotes. -/
  regex : Pattern.Regex

namespace Pattern

/-- Prepare a pattern, if it is well formed and not too long. -/
def compile? (source : String) : Option Pattern :=
  match read? source with
  | none => none
  | some expression =>
      if Writing.fits expression then some ⟨source, expression.regex⟩ else none

/-- Whether some part of a text matches. -/
def isMatch (pattern : Pattern) (text : String) : Bool :=
  pattern.regex.matchesWithin text

/-- A prepared pattern keeps its text. -/
theorem source_of_compile? {source : String} {prepared : Pattern}
    (compiled : compile? source = some prepared) : prepared.source = source := by
  unfold compile? at compiled
  split at compiled
  · contradiction
  · split at compiled
    · cases compiled
      rfl
    · contradiction

-- Which texts compile and what they match is for the engine to say: all that proofs use is
-- `source_of_compile?`.
attribute [irreducible] compile? isMatch

end Pattern

end Blueprint
