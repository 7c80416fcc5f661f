import Blueprint.Text.CharSet

/-!
# Runs of code points

Some properties have one value for every code point.  Their tables list the
values of all code points from zero upwards as runs: a label that begins with a
capital and, if the run is longer than one, its length.
-/

namespace Blueprint.Text

/-- Neighbouring code points with one value. -/
structure Run where
  /-- The label of the value. -/
  label : String
  /-- The number of code points. -/
  length : Nat

namespace Run

/-- The runs in some text, given what is known of the run that is being read. -/
def readFrom (label : String) (length : Nat) : List Char → List Run
  | [] => [⟨label, max 1 length⟩]
  | char :: rest =>
      if char.isDigit then readFrom label (10 * length + (char.toNat - '0'.toNat)) rest
      else if char.isUpper then ⟨label, max 1 length⟩ :: readFrom (String.ofList [char]) 0 rest
      else readFrom (label.push char) length rest

/-- The runs in the lines of a table. -/
def readAll (lines : List String) : List Run :=
  match lines.flatMap (·.toList) with
  | [] => []
  | char :: rest => readFrom (String.ofList [char]) 0 rest

/-- The ranges of the runs whose label is wanted, from a code point on. -/
def rangesFrom (start : Nat) (wanted : String → Bool) : List Run → List CodeRange
  | [] => []
  | run :: rest =>
      let ranges := rangesFrom (start + run.length) wanted rest
      if wanted run.label then ⟨start, start + run.length - 1⟩ :: ranges else ranges

/-- The characters of the runs whose label is wanted. -/
def charSet (runs : List Run) (wanted : String → Bool) : CharSet :=
  ⟨CodeRange.join (rangesFrom 0 wanted runs)⟩

end Run

end Blueprint.Text
