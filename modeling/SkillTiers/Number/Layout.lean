/-
# Laying out significant digits

A decimal is written positionally when its first digit stands near the point,
and with an exponent of at least two digits otherwise; trailing zeros of the
digits carry nothing and are dropped first. `Layout` says where the positional
range ends and what follows a number without a fraction. Two layouts are in use:
`plain`, for numbers as data, and `general`, for numbers in a sentence.
-/

import SkillTiers.Number.Basic
import SkillTiers.Number.Significant

namespace SkillTiers

/-- How a decimal is laid out. -/
structure Layout where
  /-- The lowest exponent of a first digit that is written positionally. -/
  lowest : Int
  /-- The first exponent above the positional range. -/
  pastHighest : Int
  /-- What follows a positional number without a fraction. -/
  wholeTail : List Char

namespace Layout

/-- Numbers as data: positional from 10^-4 up to 10^16, with a fraction even
where it is zero. -/
def plain : Layout :=
  ⟨-4, 16, ['.', '0']⟩

/-- Numbers in a sentence: positional from 10^-4 up to 10^6, with a fraction only
where there is one. -/
def general : Layout :=
  ⟨-4, 6, []⟩

/-- The digits without the zeros that end them. -/
def stripZeros (digits : List Char) : List Char :=
  (digits.reverse.dropWhile (· == '0')).reverse

/-- An exponent with its sign, in two digits or more. -/
def exponentText (exponent : Int) : List Char :=
  let digits := Nat.toDigits 10 exponent.natAbs
  (if exponent < 0 then '-' else '+') ::
    (if digits.length < 2 then '0' :: digits else digits)

/-- The digits with the point after the first `point` places, zeros standing in
for the places that the digits do not reach. -/
def positional (layout : Layout) (digits : List Char) (point : Int) : List Char :=
  if point ≤ 0 then
    '0' :: '.' :: (List.replicate (-point).toNat '0' ++ digits)
  else if (digits.length : Int) ≤ point then
    digits ++ List.replicate (point.toNat - digits.length) '0' ++ layout.wholeTail
  else
    digits.take point.toNat ++ '.' :: digits.drop point.toNat

/-- The digits with the point after the first and the exponent of the first. -/
def withExponent (digits : List Char) (exponent : Int) : List Char :=
  match digits with
  | [] => []
  | [digit] => digit :: 'e' :: exponentText exponent
  | digit :: rest => digit :: '.' :: (rest ++ 'e' :: exponentText exponent)

/-- The text of a decimal. -/
def write (layout : Layout) (decimal : Decimal) : List Char :=
  if decimal.coefficient = 0 then
    '0' :: layout.wholeTail
  else
    let digits := stripZeros decimal.digits
    let exponent := decimal.point - 1
    if layout.lowest ≤ exponent ∧ exponent < layout.pastHighest then
      layout.positional digits decimal.point
    else
      withExponent digits exponent

end Layout

/-- A minus sign on the text of a negative number. -/
def withSign (negative : Bool) (text : List Char) : List Char :=
  if negative then '-' :: text else text

namespace Double

/-- The text of a double as data: the fewest digits that read back. -/
def chars : Double → List Char
  | .finite negative size => withSign negative (Layout.plain.write size.shortest)
  | .infinite negative => withSign negative ['i', 'n', 'f']
  | .nan => ['n', 'a', 'n']

/-- The text of a double in a sentence: six digits. -/
def generalText : Double → String
  | .finite negative size =>
    String.ofList (withSign negative (Layout.general.write (size.toDigitCount 6)))
  | .infinite negative => String.ofList (withSign negative ['i', 'n', 'f'])
  | .nan => "nan"

end Double

/-- The decimal digits of an integer, with a minus sign below zero. -/
def intChars (value : Int) : List Char :=
  withSign (decide (value < 0)) (Nat.toDigits 10 value.natAbs)

namespace Number

/-- The text of a number as data. -/
def chars : Number → List Char
  | .int value => intChars value
  | .float value => value.chars

/-- The text of a number as data. -/
def text (number : Number) : String :=
  String.ofList number.chars

end Number

end SkillTiers
