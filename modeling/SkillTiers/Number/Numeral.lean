/-
# Numerals

A numeral is a run of decimal digits that may hold a point and may end in an
exponent. `Numeral.decimal?` reads one that stands alone; `Double.parse?` reads a
number as people write it: blanks around it, a sign, digits of any script,
underscores between digits, and the names of the values that are not finite.
-/

import SkillTiers.Number.Significant
import SkillTiers.Text.Blank
import SkillTiers.Text.Digit

namespace SkillTiers

/-- Why a text is not read. -/
inductive ReadError where
  | malformed
  /-- An integer in it has more digits than are ever read. -/
  | tooManyDigits (count : Nat)
  /-- An object in it, or else an array, lies in more of these than are ever read. -/
  | tooDeep (isObject : Bool)
deriving DecidableEq, Repr

namespace Numeral

/-- The most digits of an integer that are read. -/
def maxDigits : Nat :=
  4300

/-- The whole number that a list of digits spells. -/
def digitsValue (digits : List Char) : Nat :=
  Nat.ofDigitChars 10 digits 0

/-- A sign, if one stands first, and what follows it. -/
def splitSign : List Char → Bool × List Char
  | '-' :: rest => (true, rest)
  | '+' :: rest => (false, rest)
  | rest => (false, rest)

/-- An exponent: a sign if there is one, and at least one digit. -/
def exponent? (chars : List Char) : Option Int :=
  let (negative, digits) := splitSign chars
  if !digits.isEmpty && digits.all Char.isDigit then
    some (if negative then -(digitsValue digits : Int) else digitsValue digits)
  else
    none

/-- The digits before the point, the digits after it, and what follows. -/
def splitPoint (chars : List Char) : List Char × List Char × List Char :=
  let whole := chars.takeWhile Char.isDigit
  match chars.dropWhile Char.isDigit with
  | '.' :: rest => (whole, rest.takeWhile Char.isDigit, rest.dropWhile Char.isDigit)
  | rest => (whole, [], rest)

/-- The decimal with these digits before and after the point and this exponent. -/
def assemble (whole fraction : List Char) (exponent : Int) : Decimal :=
  ⟨digitsValue (whole ++ fraction), exponent - fraction.length⟩

/-- The decimal that a numeral without a sign spells: a digit on one side of the
point at least, and an exponent or nothing behind. -/
def decimal? (chars : List Char) : Option Decimal :=
  match splitPoint chars with
  | ([], [], _) => none
  | (whole, fraction, []) => some (assemble whole fraction 0)
  | (whole, fraction, mark :: rest) =>
    if mark = 'e' ∨ mark = 'E' then (exponent? rest).map (assemble whole fraction)
    else none

/-- Whether every underscore stands between two digits; `previous` tells of the
character before the list. -/
def underscoresFit (previous : Bool) : List Char → Bool
  | [] => true
  | ['_'] => false
  | '_' :: next :: rest => previous && next.isDigit && underscoresFit true rest
  | c :: rest => underscoresFit c.isDigit rest

/-- The characters without the underscores between digits, if there are no
others. -/
def dropUnderscores? (chars : List Char) : Option (List Char) :=
  if underscoresFit false chars then some (chars.filter (· != '_')) else none

/-- The blanks of the ASCII range around a number. -/
def isAsciiBlank (c : Char) : Bool :=
  c == ' ' || c == '\t' || c == '\n' || c == '\r' || c.toNat == 0x0B || c.toNat == 0x0C

/-- A character with a digit of another script turned into the plain digit and a
blank of another script into a space. -/
def plainChar (c : Char) : Char :=
  if c.toNat < 0x80 then c
  else if isBlank c then ' '
  else
    match digitValue? c with
    | some value => Nat.digitChar value
    | none => c

end Numeral

namespace Double

/-- The double that a numeral without blanks spells, its sign included. -/
def ofNumeral? (chars : List Char) : Option Double :=
  let (negative, rest) := Numeral.splitSign chars
  let name := String.ofList (rest.map Char.toLower)
  if name = "inf" ∨ name = "infinity" then some (.infinite negative)
  else if name = "nan" then some .nan
  else (Numeral.decimal? rest).map (Decimal.toDouble negative)

/-- The double that a text spells. -/
def parse? (text : String) : Option Double := do
  let plain := text.toList.map Numeral.plainChar
  let chars ← Numeral.dropUnderscores? (trimChars Numeral.isAsciiBlank plain)
  ofNumeral? chars

end Double

end SkillTiers
