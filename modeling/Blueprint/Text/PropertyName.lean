import Blueprint.Text.Age
import Blueprint.Text.Break

/-!
# Names of properties

Sets of characters are named by a property that a character has or has not, by a
general category or a script, or by a property together with one of its values.
Case, blanks, hyphens, underscores and a leading `is` do not count in names.
-/

namespace Blueprint.Text.PropertyName

/-- A name without what does not count in it.  Only ASCII counts.  After a leading
`is`, a lone `c` keeps it. -/
def normalized (name : List Char) : String :=
  let key (chars : List Char) : List Char :=
    (chars.filter fun char =>
      char.toNat < 128 && char != ' ' && char != '_' && char != '-').map Char.toLower
  match name with
  | first :: second :: rest =>
      if first.toLower = 'i' ∧ second.toLower = 's' then
        if key rest = ['c'] then "isc" else String.ofList (key rest)
      else String.ofList (key name)
  | name => String.ofList (key name)

/-- The characters that a single name stands for. -/
def single? (name : List Char) : Option CharSet :=
  let key := normalized name
  (((Property.named? key).map Property.charSet).or (Category.named? key)).or
    ((Script.named? key).map fun script => Script.charSet [script])

/-- The characters for which a property has a value. -/
def valued? (property value : List Char) : Option CharSet :=
  let value := normalized value
  match normalized property with
  | "gc" | "generalcategory" => Category.named? value
  | "sc" | "script" => (Script.named? value).map fun script => Script.charSet [script]
  | "scx" | "scriptextensions" => (Script.named? value).map Script.extendedCharSet
  | "age" => Age.named? value
  | "gcb" | "graphemeclusterbreak" => graphemeBreak? value
  | "wb" | "wordbreak" => wordBreak? value
  | "sb" | "sentencebreak" => sentenceBreak? value
  | _ => none

end Blueprint.Text.PropertyName
