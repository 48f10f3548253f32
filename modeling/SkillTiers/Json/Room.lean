/-
# Room for JSON values

A value that is written or read takes room: each array and each object in it takes
some, and what lies in it has to do with the rest. `allow` says which values there is
room for, and what is in the way of any other; an integer of too many digits is in the
way in any room. As much can be written as can be read.
-/

import SkillTiers.Failure
import SkillTiers.Json.Basic
import SkillTiers.Number.Numeral

namespace SkillTiers

namespace Json

/-- Refuses an integer of too many digits. -/
def allowInteger (value : Int) : Except ReadError Unit :=
  let digits := Nat.toDigits 10 value.natAbs
  if Numeral.maxDigits < digits.length then .error (.tooManyDigits digits.length) else .ok ()

mutual

/-- Refuses a value for which there is no room: `room` is how many arrays and objects in
one another there may be. -/
def allow (room : Nat) : Json → Except ReadError Unit
  | .number (.int value) => allowInteger value
  | .array items => if room = 0 then .error (.tooDeep false) else allowItems (room - 1) items
  | .object fields => if room = 0 then .error (.tooDeep true) else allowFields (room - 1) fields
  | _ => .ok ()

/-- `allow` for one item after the other. -/
def allowItems (room : Nat) : List Json → Except ReadError Unit
  | [] => .ok ()
  | item :: rest => do
    allow room item
    allowItems room rest

/-- `allow` for the value of one field after the other. -/
def allowFields (room : Nat) : List (String × Json) → Except ReadError Unit
  | [] => .ok ()
  | (_, value) :: rest => do
    allow room value
    allowFields room rest

end

/-- How many arrays and objects in one another are read and written. -/
def maxRoom : Nat :=
  975

/-- Refuses a value of which no text can be made. -/
def checkText (value : Json) : Outcome Unit :=
  .ofWriting (value.allow maxRoom)

end Json

end SkillTiers
