/-
# Timestamps

The clock of the rule store counts seconds from the start of a year. An instant
is written as a calendar date and a time of day.
-/

namespace SkillTiers

/-- The seconds since the store's clock started. -/
abbrev Instant : Type :=
  Nat

namespace Instant

/-- The year in which the clock starts. -/
def firstYear : Nat :=
  2024

/-- Whether a year has a leap day. -/
def isLeap (year : Nat) : Bool :=
  year % 4 == 0 && (year % 100 != 0 || year % 400 == 0)

/-- The days of the months of a year. -/
def monthDays (year : Nat) : List Nat :=
  [31, if isLeap year then 29 else 28, 31, 30, 31, 30, 31, 31, 30, 31, 30, 31]

/-- The month, counted from `month`, and the day in it of a day counted from
zero. -/
def dayOfMonths (month : Nat) (day : Nat) : List Nat → Nat × Nat
  | [] => (month, day + 1)
  | days :: rest =>
    if day < days then (month, day + 1) else dayOfMonths (month + 1) (day - days) rest

/-- The number of days of a year. -/
def yearDays (year : Nat) : Nat :=
  if isLeap year then 366 else 365

/-- No year is empty. -/
theorem yearDays_pos (year : Nat) : 0 < yearDays year := by
  unfold yearDays
  split <;> decide

/-- The year, the month and the day of a day counted from the first of a year. -/
def date (year day : Nat) : Nat × Nat × Nat :=
  if yearDays year ≤ day then date (year + 1) (day - yearDays year)
  else (year, dayOfMonths 1 day (monthDays year))
termination_by day
decreasing_by
  have := yearDays_pos year
  omega

/-- A number of at least two digits. -/
def twoDigits (value : Nat) : String :=
  if value < 10 then "0" ++ toString value else toString value

/-- The date and the time of day of an instant. -/
def text (instant : Instant) : String :=
  let (year, month, day) := date firstYear (instant / 86400)
  let second := instant % 86400
  toString year ++ "-" ++ twoDigits month ++ "-" ++ twoDigits day ++ "T"
    ++ twoDigits (second / 3600) ++ ":" ++ twoDigits (second / 60 % 60) ++ ":"
    ++ twoDigits (second % 60)

/-- The text of an instant with its zone written as a letter. -/
def zuluText (instant : Instant) : String :=
  instant.text ++ "Z"

/-- The text of an instant with its zone written as an offset. -/
def offsetText (instant : Instant) : String :=
  instant.text ++ "+00:00"

end Instant

end SkillTiers
