import Diglot.Json.Basic

/-!
# Numbers

Of a number in a document only two things are kept: its value, if it is written as a
natural number of 64 bits, and whether a double can hold it. A number that a double
cannot hold is well formed but unreadable.

A double is found in two steps. The digits of the number are taken from the left as far
as 64 bits have room for them, and the others only count; the digits that are taken and
the power of ten that they are multiplied by are each brought to the nearest double, and
their product must be finite. Close to the largest double this can differ from rounding
the number as a whole.
-/

namespace Diglot.Json

/-! ## Doubles -/

/-- The double nearest to a natural number; of two that are equally near it is the one
with the even significand. -/
def nearestDouble (n : Nat) : Nat :=
  if n < Nat.pow 2 53 then n
  else
    let unit := Nat.pow 2 (n.log2 - 52)
    let below := n / unit
    let beyond := 2 * (n % unit)
    if beyond < unit || (beyond = unit && below % 2 = 0) then below * unit
    else (below + 1) * unit

/-- The least number that does not round to a double: halfway from the largest double to
the next power of two. -/
def doubleLimit : Nat :=
  Nat.pow 2 1024 - Nat.pow 2 970

/-- The greatest exponent of a power of ten that is a double. -/
def maxExponent : Nat := 308

/-- Whether `significand` times ten to the `exponent` is too large for a double, if both
factors are rounded before they are multiplied. -/
def overflows (significand : Nat) (exponent : Int) : Bool :=
  if significand = 0 || exponent < 0 then false
  else if exponent.toNat > maxExponent then true
  else nearestDouble significand * nearestDouble (Nat.pow 10 exponent.toNat) ≥ doubleLimit

/-! ## Digits -/

/-- The value of a decimal digit. -/
def digitValue (c : Char) : Nat :=
  c.toNat - '0'.toNat

/-- The natural number with the given decimal digits. -/
def ofDigits (digits : List Char) : Nat :=
  digits.foldl (fun value c => value * 10 + digitValue c) 0

/-- Write digits behind `value` as long as the result has 64 bits. The answer is the
result, and how many digits are left. -/
def takeDigits (value : Nat) : List Char → Nat × Nat
  | [] => (value, 0)
  | c :: rest =>
    let next := value * 10 + digitValue c
    if next < UInt64.size then takeDigits next rest else (value, rest.length + 1)

/-- The digits at the front of a text. -/
def spanDigits (cs : List Char) : List Char × List Char :=
  cs.span Char.isDigit

/-! ## The parts of a number -/

/-- A number as it is written. -/
structure Decimal where
  /-- whether there is a minus sign -/
  isNegative : Bool
  /-- digits in front of the point -/
  whole : List Char
  /-- digits behind the point, of which there are none without a point -/
  fraction : List Char
  /-- the exponent, if there is one -/
  exponent : Option Int

namespace Decimal

/-- Whether no double can hold the number. The digits behind the point go on where those
in front of it end, even if some of these were left. -/
def isTooLarge (decimal : Decimal) : Bool :=
  let (leading, leftOfWhole) := takeDigits 0 decimal.whole
  let (significand, leftOfFraction) := takeDigits leading decimal.fraction
  let places := decimal.fraction.length - leftOfFraction
  overflows significand (decimal.exponent.getD 0 + leftOfWhole - places)

/-- The value of a natural number of 64 bits without point, exponent or sign. -/
def natural? (decimal : Decimal) : Option Nat :=
  let value := ofDigits decimal.whole
  if !decimal.isNegative && decimal.fraction.isEmpty && decimal.exponent.isNone &&
      value < UInt64.size then
    some value
  else none

/-- What a number stands for in a document. -/
def toJson (decimal : Decimal) : Json :=
  if decimal.isTooLarge then unreadable else number decimal.natural?

end Decimal

/-- The fraction at the front of a text, empty if there is none. -/
def scanFraction : List Char → Option (List Char × List Char)
  | '.' :: rest =>
    match spanDigits rest with
    | ([], _) => none
    | (digits, rest) => some (digits, rest)
  | rest => some ([], rest)

/-- The exponent at the front of a text, if there is one. -/
def scanExponent (cs : List Char) : Option (Option Int × List Char) :=
  let digitsOf (sign : Int) (cs : List Char) : Option (Option Int × List Char) :=
    match spanDigits cs with
    | ([], _) => none
    | (digits, rest) => some (some (sign * ofDigits digits), rest)
  match cs with
  | c :: rest =>
    if c = 'e' || c = 'E' then
      match rest with
      | '+' :: rest => digitsOf 1 rest
      | '-' :: rest => digitsOf (-1) rest
      | rest => digitsOf 1 rest
    else some (none, cs)
  | [] => some (none, [])

/-- The number at the front of a text. Only zero itself begins with a zero. -/
def scanNumber (cs : List Char) : Option (Decimal × List Char) := do
  let (isNegative, cs) :=
    match cs with
    | '-' :: rest => (true, rest)
    | _ => (false, cs)
  let (whole, cs) := spanDigits cs
  if whole.isEmpty || (whole.head? = some '0' && whole.length > 1) then none
  else
    let (fraction, cs) ← scanFraction cs
    let (exponent, cs) ← scanExponent cs
    pure (⟨isNegative, whole, fraction, exponent⟩, cs)

end Diglot.Json
