import Blueprint.Tree

/-!
# JSON tokens

A text is cut into brackets, separators and scalars; blanks between them are
dropped.  Escapes in strings are resolved and numbers are given their value, so
a token no longer depends on how it was written.

A number without fraction and exponent is an integer if it fits 64 bits, signed
or unsigned; `-0` and longer numbers are floats.  A float is read from the leading
digits that fit 64 bits and a power of ten.
-/

namespace Blueprint.Json

/-- A lexical unit of JSON. -/
inductive Token where
  | openSequence
  | closeSequence
  | openMapping
  | closeMapping
  | comma
  | colon
  | null
  | bool (value : Bool)
  | number (value : Number)
  | string (value : String)

/-- The value of a hexadecimal digit. -/
def hexValue? (char : Char) : Option Nat :=
  if '0' ≤ char ∧ char ≤ '9' then some (char.toNat - '0'.toNat)
  else if 'a' ≤ char ∧ char ≤ 'f' then some (char.toNat - 'a'.toNat + 10)
  else if 'A' ≤ char ∧ char ≤ 'F' then some (char.toNat - 'A'.toNat + 10)
  else none

/-- The value of four hexadecimal digits. -/
def unit? (first second third fourth : Char) : Option Nat := do
  let a ← hexValue? first
  let b ← hexValue? second
  let c ← hexValue? third
  let d ← hexValue? fourth
  return ((a * 16 + b) * 16 + c) * 16 + d

/-- The first unit of a character written as two. -/
def isLeading (unit : Nat) : Bool :=
  0xD800 ≤ unit && unit < 0xDC00

/-- The second unit of a character written as two. -/
def isTrailing (unit : Nat) : Bool :=
  0xDC00 ≤ unit && unit < 0xE000

/-- The character of an escape with one letter. -/
def letterEscape? : Char → Option Char
  | '"' => some '"'
  | '\\' => some '\\'
  | '/' => some '/'
  | 'b' => some '\x08'
  | 'f' => some '\x0c'
  | 'n' => some '\n'
  | 'r' => some '\r'
  | 't' => some '\t'
  | _ => none

/-- The characters of a string up to its closing quote, and what follows it.  A
control character must be escaped, and a character beyond 16 bits is written as
two units. -/
def stringBody : List Char → List Char → Option (List Char × List Char)
  | [], _ => none
  | '"' :: rest, found => some (found.reverse, rest)
  | '\\' :: 'u' :: a :: b :: c :: d :: rest, found =>
      match unit? a b c d with
      | none => none
      | some unit =>
          if isTrailing unit then none
          else if isLeading unit then
            match rest with
            | '\\' :: 'u' :: e :: f :: g :: h :: rest =>
                match unit? e f g h with
                | none => none
                | some second =>
                    if isTrailing second then
                      stringBody rest
                        (Char.ofNat (0x10000 + (unit - 0xD800) * 0x400 + (second - 0xDC00)) :: found)
                    else none
            | _ => none
          else stringBody rest (Char.ofNat unit :: found)
  | '\\' :: letter :: rest, found =>
      match letterEscape? letter with
      | none => none
      | some char => stringBody rest (char :: found)
  | '\\' :: [], _ => none
  | char :: rest, found => if char.toNat < 32 then none else stringBody rest (char :: found)

/-- The value of decimal digits. -/
def digitsValue (digits : List Char) : Nat :=
  digits.foldl (fun value digit => 10 * value + (digit.toNat - '0'.toNat)) 0

/-- Largest number of 64 bits. -/
def maxWord : Nat := UInt64.size - 1

/-- Append digits to a significand as long as it fits 64 bits.  Answers the
significand and how many digits were taken. -/
def takeDigits : List Char → Nat → Nat → Nat × Nat
  | [], significand, taken => (significand, taken)
  | digit :: rest, significand, taken =>
      let next := 10 * significand + (digit.toNat - '0'.toNat)
      if maxWord < next then (significand, taken) else takeDigits rest next (taken + 1)

/-- The value of an optional sign and decimal digits. -/
def exponent? (text : List Char) : Option Int :=
  let value (digits : List Char) : Option Int :=
    if digits.isEmpty || !digits.all Char.isDigit then none else some (digitsValue digits)
  match text with
  | '-' :: digits => (value digits).map (- ·)
  | '+' :: digits => value digits
  | digits => value digits

/-- A float of a sign, digits before and after the point and an exponent; none
beyond the largest finite one. -/
def float? (negative : Bool) (whole fraction : List Char) (exponent : Int) : Option Number := do
  let (leading, wholeTaken) := takeDigits whole 0 0
  let (significand, fractionTaken) := takeDigits fraction leading 0
  let dropped : Int := (whole.length - wholeTaken : Nat)
  let rounded ← Binary64.ofQuotient? negative significand 1
  let value ← rounded.ofScaled? (exponent + dropped - (fractionTaken : Int))
  return .float value

/-- The number written by some characters: an optional minus, digits without a
leading zero, an optional fraction and an optional exponent. -/
def number? (text : List Char) : Option Number := do
  let (negative, unsigned) :=
    match text with
    | '-' :: rest => (true, rest)
    | rest => (false, rest)
  let whole := unsigned.takeWhile Char.isDigit
  if whole.isEmpty || (whole.length > 1 && whole.head? == some '0') then none
  else
    let afterWhole := unsigned.dropWhile Char.isDigit
    let (hasPoint, fraction, afterFraction) :=
      match afterWhole with
      | '.' :: rest => (true, rest.takeWhile Char.isDigit, rest.dropWhile Char.isDigit)
      | rest => (false, [], rest)
    if hasPoint && fraction.isEmpty then none
    else
      match afterFraction with
      | [] =>
          if hasPoint then float? negative whole fraction 0
          else
            let value := digitsValue whole
            if negative then
              if 0 < value ∧ value ≤ Nat.pow 2 63 then some (.int (-value))
              else float? true whole [] 0
            else if value ≤ maxWord then some (.int value)
            else float? false whole [] 0
      | mark :: rest =>
          if mark == 'e' || mark == 'E' then do
            let exponent ← exponent? rest
            float? negative whole fraction exponent
          else none

/-- Characters that may stand in a number. -/
def isNumberChar (char : Char) : Bool :=
  char.isDigit || char == '-' || char == '+' || char == '.' || char == 'e' || char == 'E'

/-- What follows a string is shorter than the string with its body. -/
theorem length_of_stringBody {chars found value rest : List Char}
    (read : stringBody chars found = some (value, rest)) : rest.length < chars.length := by
  fun_induction stringBody chars found with
  | case1 => simp at read
  | case2 rest found =>
      simp only [Option.some.injEq, Prod.mk.injEq] at read
      simp [read.2]
  | _ =>
      first
        | simp at read
        | (rename_i ih
           have shorter := ih read
           simp only [List.length_cons]
           omega)

theorem length_dropWhile_le (keep : Char → Bool) (chars : List Char) :
    (chars.dropWhile keep).length ≤ chars.length :=
  (List.dropWhile_sublist keep).length_le

/-- The tokens of a text, if it has only such. -/
def tokens? : List Char → Option (List Token)
  | [] => some []
  | ' ' :: rest | '\n' :: rest | '\r' :: rest | '\t' :: rest => tokens? rest
  | '[' :: rest => (tokens? rest).map (Token.openSequence :: ·)
  | ']' :: rest => (tokens? rest).map (Token.closeSequence :: ·)
  | '\x7b' :: rest => (tokens? rest).map (Token.openMapping :: ·)
  | '\x7d' :: rest => (tokens? rest).map (Token.closeMapping :: ·)
  | ',' :: rest => (tokens? rest).map (Token.comma :: ·)
  | ':' :: rest => (tokens? rest).map (Token.colon :: ·)
  | 'n' :: 'u' :: 'l' :: 'l' :: rest => (tokens? rest).map (Token.null :: ·)
  | 't' :: 'r' :: 'u' :: 'e' :: rest => (tokens? rest).map (Token.bool true :: ·)
  | 'f' :: 'a' :: 'l' :: 's' :: 'e' :: rest => (tokens? rest).map (Token.bool false :: ·)
  | '"' :: rest =>
      match read : stringBody rest [] with
      | none => none
      | some (value, after) =>
          have : after.length < rest.length := length_of_stringBody read
          (tokens? after).map (Token.string (String.ofList value) :: ·)
  | char :: rest =>
      match number? (char :: rest.takeWhile isNumberChar) with
      | none => none
      | some value => (tokens? (rest.dropWhile isNumberChar)).map (Token.number value :: ·)
termination_by chars => chars.length
decreasing_by
  all_goals simp only [List.length_cons]
  all_goals first
    | omega
    | (have shorter := length_dropWhile_le isNumberChar rest; omega)

end Blueprint.Json
