/-
# Reading JSON

The reader accepts JSON text, white space around every token, and the names of
the doubles that are not finite. A numeral without point and exponent is an
integer, any other a double. Of several fields with one key the last counts. A
text that is not JSON is refused at the first fault, and so are an integer of too
many digits and a value that lies in too many others.

`readValue` reads one value off the front and returns the rest. Its first
argument bounds the number of steps; each step consumes a character, so the
length of the text is bound enough. Its second argument is the room for values in
one another: how many arrays and objects may still be opened.
-/

import SkillTiers.Json.Room
import SkillTiers.Text.Hex

namespace SkillTiers

namespace Json

/-- The characters without the white space in front. -/
def skipSpace (chars : List Char) : List Char :=
  chars.dropWhile fun c => c == ' ' || c == '\t' || c == '\n' || c == '\r'

/-- The character that a short escape stands for. -/
def shortEscape? : Char → Option Char
  | '"' => some '"'
  | '\\' => some '\\'
  | '/' => some '/'
  | 'b' => some '\x08'
  | 'f' => some '\x0c'
  | 'n' => some '\n'
  | 'r' => some '\r'
  | 't' => some '\t'
  | _ => none

/-- The units of a string behind its opening quote, an escape of four digits
being one unit and any other character its code point, and the rest behind the
closing quote. -/
def readUnits : List Char → Option (List Nat × List Char)
  | [] => none
  | '"' :: rest => some ([], rest)
  | '\\' :: 'u' :: a :: b :: c :: d :: rest => do
    let unit ← hexQuad? a b c d
    let (units, rest) ← readUnits rest
    return (unit :: units, rest)
  | '\\' :: escape :: rest => do
    let c ← shortEscape? escape
    let (units, rest) ← readUnits rest
    return (c.toNat :: units, rest)
  | c :: rest =>
    if c = '\\' ∨ c.toNat < 0x20 then none
    else do
      let (units, rest) ← readUnits rest
      return (c.toNat :: units, rest)

/-- Whether a unit is the first half of a pair. -/
def isHighHalf (unit : Nat) : Bool :=
  0xD800 ≤ unit && unit < 0xDC00

/-- Whether a unit is the second half of a pair. -/
def isLowHalf (unit : Nat) : Bool :=
  0xDC00 ≤ unit && unit < 0xE000

/-- The character of a unit that stands alone; half a pair is none, and the
replacement character stands for it. -/
def unitChar (unit : Nat) : Char :=
  if isHighHalf unit || isLowHalf unit then '\uFFFD' else Char.ofNat unit

/-- The characters that units spell. -/
def joinUnits : List Nat → List Char
  | [] => []
  | [unit] => [unitChar unit]
  | unit :: next :: rest =>
    if isHighHalf unit && isLowHalf next then
      Char.ofNat (0x10000 + (unit - 0xD800) * 0x400 + (next - 0xDC00)) :: joinUnits rest
    else unitChar unit :: joinUnits (next :: rest)

/-- The string behind its opening quote. -/
def readString (chars : List Char) : Except ReadError (String × List Char) :=
  match readUnits chars with
  | some (units, rest) => .ok (String.ofList (joinUnits units), rest)
  | none => .error .malformed

/-- The digits of a whole part, which starts with zero only if it is zero. -/
def readWhole : List Char → Option (List Char × List Char)
  | '0' :: rest => some (['0'], rest)
  | chars =>
    match chars.takeWhile Char.isDigit with
    | [] => none
    | whole => some (whole, chars.dropWhile Char.isDigit)

/-- A point with digits behind it, if that is what stands first. -/
def readFraction (chars : List Char) : Option (List Char × List Char) :=
  match chars with
  | '.' :: rest =>
    match rest.takeWhile Char.isDigit with
    | [] => none
    | fraction => some (fraction, rest.dropWhile Char.isDigit)
  | _ => none

/-- An exponent mark with a sign and digits behind it, if that stands first. -/
def readExponent (chars : List Char) : Option (Int × List Char) :=
  match chars with
  | mark :: rest =>
    if mark = 'e' ∨ mark = 'E' then
      let (negative, digits) := Numeral.splitSign rest
      match digits.takeWhile Char.isDigit with
      | [] => none
      | exponent =>
        let size : Int := Numeral.digitsValue exponent
        some (if negative then -size else size, digits.dropWhile Char.isDigit)
    else none
  | [] => none

/-- The integer with this sign and these digits. -/
def readInteger (negative : Bool) (digits : List Char) : Except ReadError Int :=
  if Numeral.maxDigits < digits.length then .error (.tooManyDigits digits.length)
  else
    let size : Int := Numeral.digitsValue digits
    .ok (if negative then -size else size)

/-- The number with this sign whose numeral stands first. -/
def readUnsigned (negative : Bool) (chars : List Char) :
    Except ReadError (Number × List Char) :=
  match readWhole chars with
  | none => .error .malformed
  | some (whole, afterWhole) =>
    let double (fraction : List Char) (exponent : Int) : Number :=
      .float ((Numeral.assemble whole fraction exponent).toDouble negative)
    match readFraction afterWhole with
    | some (fraction, afterFraction) =>
      match readExponent afterFraction with
      | some (exponent, rest) => .ok (double fraction exponent, rest)
      | none => .ok (double fraction 0, afterFraction)
    | none =>
      match readExponent afterWhole with
      | some (exponent, rest) => .ok (double [] exponent, rest)
      | none => do return (.int (← readInteger negative whole), afterWhole)

/-- A number, the names of the doubles that are not finite included. -/
def readNumber : List Char → Except ReadError (Number × List Char)
  | 'N' :: 'a' :: 'N' :: rest => .ok (.float .nan, rest)
  | 'I' :: 'n' :: 'f' :: 'i' :: 'n' :: 'i' :: 't' :: 'y' :: rest =>
    .ok (.float (.infinite false), rest)
  | '-' :: 'I' :: 'n' :: 'f' :: 'i' :: 'n' :: 'i' :: 't' :: 'y' :: rest =>
    .ok (.float (.infinite true), rest)
  | '-' :: rest => readUnsigned true rest
  | chars => readUnsigned false chars

mutual

/-- The value at the front, and the rest. -/
def readValue : Nat → Nat → List Char → Except ReadError (Json × List Char)
  | 0, _, _ => .error .malformed
  | fuel + 1, room, chars =>
    match chars with
    | 'n' :: 'u' :: 'l' :: 'l' :: rest => .ok (.null, rest)
    | 't' :: 'r' :: 'u' :: 'e' :: rest => .ok (.bool true, rest)
    | 'f' :: 'a' :: 'l' :: 's' :: 'e' :: rest => .ok (.bool false, rest)
    | '"' :: rest => do
      let (text, rest) ← readString rest
      return (.string text, rest)
    | '[' :: rest =>
      if room = 0 then .error (.tooDeep false)
      else
        match skipSpace rest with
        | ']' :: rest => .ok (.array [], rest)
        | rest => do
          let (items, rest) ← readItems fuel (room - 1) rest
          return (.array items, rest)
    | '{' :: rest =>
      if room = 0 then .error (.tooDeep true)
      else
        match skipSpace rest with
        | '}' :: rest => .ok (.object [], rest)
        | rest => do
          let (fields, rest) ← readFields fuel (room - 1) rest
          return (.object (mergeFields fields), rest)
    | chars => do
      let (value, rest) ← readNumber chars
      return (.number value, rest)

/-- The items up to the closing bracket, one at least. -/
def readItems : Nat → Nat → List Char → Except ReadError (List Json × List Char)
  | 0, _, _ => .error .malformed
  | fuel + 1, room, chars => do
    let (item, rest) ← readValue fuel room chars
    match skipSpace rest with
    | ']' :: rest => return ([item], rest)
    | ',' :: rest => do
      let (items, rest) ← readItems fuel room (skipSpace rest)
      return (item :: items, rest)
    | _ => .error .malformed

/-- The fields up to the closing brace, one at least. -/
def readFields : Nat → Nat → List Char → Except ReadError (List (String × Json) × List Char)
  | 0, _, _ => .error .malformed
  | fuel + 1, room, chars =>
    match chars with
    | '"' :: rest => do
      let (key, rest) ← readString rest
      match skipSpace rest with
      | ':' :: rest => do
        let (value, rest) ← readValue fuel room (skipSpace rest)
        match skipSpace rest with
        | '}' :: rest => return ([(key, value)], rest)
        | ',' :: rest => do
          let (fields, rest) ← readFields fuel room (skipSpace rest)
          return ((key, value) :: fields, rest)
        | _ => .error .malformed
      | _ => .error .malformed
    | _ => .error .malformed

end

/-- The value that a text spells, if there is room for it. -/
def parseWithin (room : Nat) (text : String) : Except ReadError Json := do
  let chars := text.toList
  let (value, rest) ← readValue (chars.length + 1) room (skipSpace chars)
  if (skipSpace rest).isEmpty then return value else .error .malformed

/-- The value that a text spells. -/
def parse (text : String) : Except ReadError Json :=
  parseWithin maxRoom text

end Json

end SkillTiers
