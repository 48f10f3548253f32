/-
# Writing JSON

The text of a value on one line, in ASCII: a comma or a colon is followed by a
space, and every character outside the printable ASCII ones is escaped by its
UTF-16 units. Doubles that are not finite are written by name.
-/

import SkillTiers.Json.Basic
import SkillTiers.Number.Layout
import SkillTiers.Text.Hex

namespace SkillTiers

namespace Json

/-- The UTF-16 units of a character. -/
def utf16Units (c : Char) : List Nat :=
  if c.toNat < 0x10000 then [c.toNat]
  else [0xD800 + (c.toNat - 0x10000) / 0x400, 0xDC00 + (c.toNat - 0x10000) % 0x400]

/-- The escape of a UTF-16 unit. -/
def unitEscape (unit : Nat) : List Char :=
  '\\' :: 'u' :: hexChars 4 unit

/-- A character inside a string. -/
def writeChar (c : Char) : List Char :=
  if c = '"' then ['\\', '"']
  else if c = '\\' then ['\\', '\\']
  else if c = '\n' then ['\\', 'n']
  else if c = '\r' then ['\\', 'r']
  else if c = '\t' then ['\\', 't']
  else if c = '\x0c' then ['\\', 'f']
  else if c = '\x08' then ['\\', 'b']
  else if ' ' ≤ c ∧ c ≤ '~' then [c]
  else (utf16Units c).flatMap unitEscape

/-- A string with its quotes. -/
def writeString (text : String) : List Char :=
  '"' :: (text.toList.flatMap writeChar ++ ['"'])

/-- A number. -/
def writeNumber : Number → List Char
  | .float .nan => ['N', 'a', 'N']
  | .float (.infinite negative) =>
    withSign negative ['I', 'n', 'f', 'i', 'n', 'i', 't', 'y']
  | value => value.chars

mutual

/-- The text of a value. -/
def write : Json → List Char
  | .null => ['n', 'u', 'l', 'l']
  | .bool true => ['t', 'r', 'u', 'e']
  | .bool false => ['f', 'a', 'l', 's', 'e']
  | .number value => writeNumber value
  | .string text => writeString text
  | .array [] => ['[', ']']
  | .array (item :: rest) => '[' :: (write item ++ writeItems rest)
  | .object [] => ['{', '}']
  | .object ((key, value) :: rest) =>
    '{' :: (writeString key ++ ':' :: ' ' :: (write value ++ writeFields rest))

/-- The items after the first, and the bracket that closes them. -/
def writeItems : List Json → List Char
  | [] => [']']
  | item :: rest => ',' :: ' ' :: (write item ++ writeItems rest)

/-- The fields after the first, and the brace that closes them. -/
def writeFields : List (String × Json) → List Char
  | [] => ['}']
  | (key, value) :: rest =>
    ',' :: ' ' :: (writeString key ++ ':' :: ' ' :: (write value ++ writeFields rest))

end

/-- The text of a value. -/
def text (value : Json) : String :=
  String.ofList value.write

end Json

end SkillTiers
