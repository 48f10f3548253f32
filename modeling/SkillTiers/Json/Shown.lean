/-
# JSON values in messages

The form in which a message shows a value: texts in quotes, lists and objects in
brackets, and a word for null and each truth value.
-/

import SkillTiers.Json.Basic
import SkillTiers.Number.Layout
import SkillTiers.Text.Quoted

namespace SkillTiers

namespace Json

mutual

/-- The form of a value in a message. -/
def shown : Json → String
  | .null => "None"
  | .bool true => "True"
  | .bool false => "False"
  | .number value => value.text
  | .string text => quoted text
  | .array [] => "[]"
  | .array (item :: rest) => "[" ++ shown item ++ shownItems rest
  | .object [] => "\x7b\x7d"
  | .object ((key, value) :: rest) =>
    "\x7b" ++ quoted key ++ ": " ++ shown value ++ shownFields rest

/-- The items after the first. -/
def shownItems : List Json → String
  | [] => "]"
  | item :: rest => ", " ++ shown item ++ shownItems rest

/-- The fields after the first. -/
def shownFields : List (String × Json) → String
  | [] => "\x7d"
  | (key, value) :: rest =>
    ", " ++ quoted key ++ ": " ++ shown value ++ shownFields rest

end

/-- The word for the kind of a value in a message. -/
def kindName : Json → String
  | .null => "NoneType"
  | .bool _ => "bool"
  | .number (.int _) => "int"
  | .number (.float _) => "float"
  | .string _ => "str"
  | .array _ => "list"
  | .object _ => "dict"

end Json

end SkillTiers
