/-!
# Splitting texts

The parts of a text between the occurrences of a mark.  There is one part more
than there are marks, so the empty text has one empty part.
-/

namespace Blueprint.Text

/-- The parts of some characters between the occurrences of a mark. -/
def split (mark : Char) : List Char → List (List Char)
  | [] => [[]]
  | char :: rest =>
      if char = mark then [] :: split mark rest
      else
        match split mark rest with
        | [] => [[char]]
        | first :: others => (char :: first) :: others

/-- The parts of a text between the occurrences of a mark. -/
def parts (mark : Char) (text : String) : List String :=
  (split mark text.toList).map String.ofList

end Blueprint.Text
