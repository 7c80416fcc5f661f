import Blueprint.Decimal.Shortest

/-!
# Laying out decimals

A notation decides which numbers are written positionally and how an exponent is
written.  Either way a number keeps a mark that it is not a whole number of the
integer kind: a point or an exponent.
-/

namespace Blueprint.Decimal

/-- How a format writes numbers. -/
structure Notation where
  /-- The least exponent of a leading digit that is written positionally. -/
  leastPositional : Int
  /-- The least exponent of a leading digit above those. -/
  leastScientific : Int
  /-- Whether a positive exponent has a plus sign. -/
  plusSign : Bool

/-- The decimal digits of a number. -/
def digitsOf (number : Nat) : List Char :=
  Nat.toDigits 10 number

/-- A decimal with a point and no exponent, given the exponent of its leading
digit. -/
def positional (digits : List Char) (leading : Int) : List Char :=
  if leading < 0 then
    ['0', '.'] ++ List.replicate (-leading - 1).toNat '0' ++ digits
  else
    let whole := leading.toNat + 1
    if digits.length ≤ whole then
      digits ++ List.replicate (whole - digits.length) '0' ++ ['.', '0']
    else digits.take whole ++ '.' :: digits.drop whole

/-- A decimal with an exponent, given the exponent of its leading digit. -/
def Notation.scientific (form : Notation) (digits : List Char) (leading : Int) : List Char :=
  let fraction :=
    match digits with
    | [] => []
    | [digit] => [digit]
    | digit :: rest => digit :: '.' :: rest
  let sign := if leading < 0 then ['-'] else if form.plusSign then ['+'] else []
  fraction ++ 'e' :: sign ++ digitsOf leading.natAbs

/-- A decimal in a notation. -/
def Notation.layout (form : Notation) (decimal : Decimal) : List Char :=
  let digits := digitsOf decimal.digits
  let leading := decimal.exponent + digits.length - 1
  if form.leastPositional ≤ leading ∧ leading < form.leastScientific then positional digits leading
  else form.scientific digits leading

/-- A number with the fewest digits that read back. -/
def Notation.render (form : Notation) (number : Binary64) : List Char :=
  let sign := if number.negative then ['-'] else []
  if number.units = 0 then sign ++ ['0', '.', '0']
  else sign ++ form.layout (shortest number.units)

end Blueprint.Decimal
