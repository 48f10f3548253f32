/-
# Numbers written in request data

A text in place of a number is read more freely than a numeral in JSON. White
space around it is passed over, and underscores may set its characters apart. An
integer may come with a plus sign, with zeros in front, and with a fraction of
zeros; what these leave must be the one usual numeral of the integer. That there
are too many digits is said only where the text begins with a usual numeral as it
stands.
-/

import SkillTiers.Number.Numeral

namespace SkillTiers

namespace Numeral

/-- Whether two underscores stand together. -/
def hasDoubleUnderscore : List Char → Bool
  | '_' :: '_' :: _ => true
  | _ :: rest => hasDoubleUnderscore rest
  | [] => false

/-- The characters without the underscores that set them apart. There are no such
characters if an underscore stands first or last, or two stand together. -/
def joined? (chars : List Char) : Option (List Char) :=
  if chars.head? == some '_' || chars.getLast? == some '_' || hasDoubleUnderscore chars then
    none
  else some (chars.filter (· != '_'))

/-- The sign that a numeral keeps and what follows its sign. A plus sign is
dropped, and no minus sign can follow it. -/
def takeSign? : List Char → Option (List Char × List Char)
  | '+' :: '-' :: _ => none
  | '+' :: rest => some ([], rest)
  | '-' :: rest => some (['-'], rest)
  | chars => some ([], chars)

/-- What is left of a numeral behind its leading zeros and the underscores among
them. If that begins with a point or is nothing, the character `last` before it
stays. -/
def afterZeros? (last : Char) : List Char → Option (List Char)
  | [] => some [last]
  | c :: rest =>
    if c == '0' || c == '_' then afterZeros? c rest
    else if c == '.' then some (last :: c :: rest)
    else if c == '-' || c.isDigit then some (c :: rest)
    else none

/-- What follows the sign of a numeral, without its leading zeros. It must begin
with a digit or a minus sign; the zeros behind that stay. -/
def dropZeros? : List Char → Option (List Char)
  | [] => none
  | c :: rest =>
    if c == '0' then afterZeros? c rest
    else if c == '-' || c.isDigit then some (c :: rest)
    else none

/-- A numeral without its fraction, if that is one of zeros. -/
def dropZeroFraction (chars : List Char) : List Char :=
  match chars.dropWhile (· != '.') with
  | _ :: '0' :: zeros => if zeros.all (· == '0') then chars.takeWhile (· != '.') else chars
  | _ => chars

/-- A minus sign, if one stands first, and what follows it. -/
def splitMinus : List Char → Bool × List Char
  | '-' :: rest => (true, rest)
  | rest => (false, rest)

/-- The integer of a usual numeral: a minus sign or none, and then digits, the
first of which is zero only if it is the only one. -/
def usualInteger (chars : List Char) : Except ReadError Int :=
  let (negative, unsigned) := splitMinus chars
  let digits := unsigned.takeWhile Char.isDigit
  if digits.head? == some '0' then
    if unsigned == ['0'] then .ok 0 else .error .malformed
  else if maxDigits < digits.length then .error (.tooManyDigits digits.length)
  else if digits.isEmpty || digits.length < unsigned.length then .error .malformed
  else
    let size : Int := digitsValue digits
    .ok (if negative then -size else size)

/-- The usual numeral that a freely written one stands for. -/
def toUsual? (chars : List Char) : Option (List Char) := do
  let (sign, unsigned) ← takeSign? (trimChars isWhiteSpace chars)
  let whole := dropZeroFraction (sign ++ (← dropZeros? unsigned))
  return (joined? whole).getD whole

/-- The integer that a text spells. -/
def integer (text : String) : Except ReadError Int :=
  match usualInteger text.toList with
  | .error .malformed =>
    match (toUsual? text.toList).map usualInteger with
    | some (.ok value) => .ok value
    | _ => .error .malformed
  | reading => reading

/-- The double that a text spells. White space and underscores do not go
together. -/
def double? (text : String) : Option Double :=
  match Double.ofNumeral? (trimChars isWhiteSpace text.toList) with
  | some value => some value
  | none => (joined? text.toList).bind Double.ofNumeral?

end Numeral

end SkillTiers
