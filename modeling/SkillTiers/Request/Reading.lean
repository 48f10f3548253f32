/-
# Reading request data

Data from outside is read field by field into the types of the service. A value
of another kind is converted where that loses nothing: a whole double or a
numeral reads as an integer, for instance. What cannot be read is a problem with
a location and with the value that has it; problems add up, so that one answer
reports all of them.
-/

import SkillTiers.Json.Basic
import SkillTiers.Request.Numerals

namespace SkillTiers

/-- One step of the way to a value inside another. -/
inductive PathStep where
  | key (name : String)
  | index (position : Nat)
deriving DecidableEq

/-- What is wrong with a value. -/
inductive ProblemKind where
  /-- A field is not there. -/
  | missing
  | notText
  | notListed
  | notList
  /-- Data that stands alone is no object. -/
  | notObject
  /-- A value is no object, where its fields may be any. -/
  | notFields
  /-- Data in a request body is no object. -/
  | notObjectInBody
  /-- A value lies in too many others of its kind. -/
  | tooDeep
  | fraction
  | notFinite
  | notIntegerText
  /-- The number is an integer, but too large to be read as one. -/
  | tooLarge
  | notInteger
  | tooSmall
  | notDoubleText
  | notDouble
  | notTruthText
  | notTruth
deriving DecidableEq

namespace ProblemKind

/-- The word for a kind of problem. -/
def name : ProblemKind → String
  | .missing => "missing"
  | .notText => "string_type"
  | .notListed => "enum"
  | .notList => "list_type"
  | .notObject => "model_type"
  | .notFields => "dict_type"
  | .notObjectInBody => "model_attributes_type"
  | .tooDeep => "recursion_loop"
  | .fraction => "int_from_float"
  | .notFinite => "finite_number"
  | .notIntegerText => "int_parsing"
  | .tooLarge => "int_parsing_size"
  | .notInteger => "int_type"
  | .tooSmall => "greater_than_equal"
  | .notDoubleText => "float_parsing"
  | .notDouble => "float_type"
  | .notTruthText => "bool_parsing"
  | .notTruth => "bool_type"

end ProblemKind

/-- A problem and the way to it. -/
structure Problem where
  location : List PathStep
  kind : ProblemKind
  /-- The value with the problem; where a field is not there, the object without
  it. -/
  input : Json

namespace PathStep

/-- The step as JSON. -/
def toJson : PathStep → Json
  | .key name => .string name
  | .index position => .ofInt position

end PathStep

namespace Problem

/-- The problem as a JSON object, which leaves the value out. -/
def toJson (problem : Problem) : Json :=
  .object [("type", .string problem.kind.name),
    ("loc", .array (problem.location.map PathStep.toJson))]

end Problem

/-- A value that was read, or the problems with it. -/
inductive Reading (α : Type) where
  | valid (value : α)
  | invalid (problems : List Problem)

namespace Reading

/-- Both sides count: the problems of the second follow those of the first. -/
def combine {α β : Type} (read : Reading (α → β)) (argument : Reading α) : Reading β :=
  match read, argument with
  | .valid function, .valid value => .valid (function value)
  | .valid _, .invalid problems => .invalid problems
  | .invalid problems, .valid _ => .invalid problems
  | .invalid problems, .invalid more => .invalid (problems ++ more)

instance : Applicative Reading where
  pure := .valid
  seq read argument := combine read (argument ())

/-- A single problem with the value itself. -/
def fail {α : Type} (kind : ProblemKind) (input : Json) : Reading α :=
  .invalid [⟨[], kind, input⟩]

/-- The reading of a value one step further in. -/
def under {α : Type} (step : PathStep) : Reading α → Reading α
  | .valid value => .valid value
  | .invalid problems =>
    .invalid (problems.map fun problem => { problem with location := step :: problem.location })

/-- The value of a field that must be there. -/
def required {α : Type} (fields : List (String × Json)) (key : String)
    (read : Json → Reading α) : Reading α :=
  match Json.lookup fields key with
  | some value => (read value).under (.key key)
  | none => (fail .missing (.object fields)).under (.key key)

/-- The value of a field, or the default where the field is not there. -/
def withDefault {α : Type} (fields : List (String × Json)) (key : String) (default : α)
    (read : Json → Reading α) : Reading α :=
  match Json.lookup fields key with
  | some value => (read value).under (.key key)
  | none => .valid default

/-- A value or null. -/
def nullable {α : Type} (read : Json → Reading α) : Json → Reading (Option α)
  | .null => .valid none
  | value => some <$> read value

/-- The value of a field, which may be null or not there. -/
def optional {α : Type} (fields : List (String × Json)) (key : String)
    (read : Json → Reading α) : Reading (Option α) :=
  withDefault fields key none (nullable read)

/-- A text. -/
def text : Json → Reading String
  | .string value => .valid value
  | value => fail .notText value

/-- A word out of a list, by the value it stands for. -/
def word {α : Type} (meaning? : String → Option α) : Json → Reading α
  | .string value =>
    match meaning? value with
    | some meaning => .valid meaning
    | none => fail .notListed (.string value)
  | value => fail .notListed value

-- A power is the one of the core library, whatever else is imported.
attribute [local instance (high)] instPowNat

/-- The integers of 64 bits begin at minus this and end below it. -/
def int64Bound : Nat :=
  2 ^ (63 : Nat)

/-- The integer that a double is, if it is one of 64 bits and not the least. -/
def wholeDouble (value : Double) : Except ProblemKind Int :=
  match value with
  | .finite negative size =>
    if size.units % unitsPerOne = 0 then
      let whole := size.units / unitsPerOne
      if whole < int64Bound then .ok (if negative then -(whole : Int) else whole)
      else .error .tooLarge
    else .error .fraction
  | _ => .error .notFinite

/-- The integer that a text is. -/
def wholeText (value : String) : Except ProblemKind Int :=
  match Numeral.integer value with
  | .ok whole => .ok whole
  | .error (.tooManyDigits _) => .error .tooLarge
  | .error _ => .error .notIntegerText

/-- The integer that a value is. -/
def whole : Json → Except ProblemKind Int
  | .number (.int value) => .ok value
  | .number (.float value) => wholeDouble value
  | .bool value => .ok (if value then 1 else 0)
  | .string value => wholeText value
  | _ => .error .notInteger

/-- A value of which something is made, unless it has a problem. -/
def converted {α : Type} (convert : Json → Except ProblemKind α) (value : Json) : Reading α :=
  match convert value with
  | .ok result => .valid result
  | .error kind => fail kind value

/-- An integer. -/
def integer : Json → Reading Int :=
  converted whole

/-- An integer not below a bound. -/
def atLeast (bound : Int) : Json → Reading Int :=
  converted fun value => do
    let number ← whole value
    if bound ≤ number then return number else .error .tooSmall

/-- An integer not below zero. -/
def natural (value : Json) : Reading Nat :=
  Int.toNat <$> atLeast 0 value

/-- The double that a number is nearest to. -/
def doubleNumber (value : Number) : Except ProblemKind Double :=
  match value.toDouble with
  | .ok double => .ok double
  | .error _ => .error .notDouble

/-- The double that a value is. -/
def asDouble : Json → Except ProblemKind Double
  | .number value => doubleNumber value
  | .bool value => doubleNumber (.int (if value then 1 else 0))
  | .string value =>
    match Numeral.double? value with
    | some double => .ok double
    | none => .error .notDoubleText
  | _ => .error .notDouble

/-- A double. -/
def double : Json → Reading Double :=
  converted asDouble

/-- The truth value that a word stands for, in letters of either case. -/
def truthText? (value : String) : Option Bool :=
  let word := String.ofList (value.toList.map Char.toLower)
  if ["1", "true", "t", "yes", "y", "on"].contains word then some true
  else if ["0", "false", "f", "no", "n", "off"].contains word then some false
  else none

/-- The integer of 64 bits that a number is. -/
def wholeNumber? : Number → Option Int
  | .int value =>
    if -(int64Bound : Int) ≤ value ∧ value < int64Bound then some value else none
  | .float value => (wholeDouble value).toOption

/-- The truth value that a value is. -/
def asTruth : Json → Except ProblemKind Bool
  | .bool value => .ok value
  | .number value =>
    match wholeNumber? value with
    | some 0 => .ok false
    | some 1 => .ok true
    | some _ => .error .notTruthText
    | none => .error .notTruth
  | .string value =>
    match truthText? value with
    | some truth => .ok truth
    | none => .error .notTruthText
  | _ => .error .notTruth

/-- A truth value. -/
def truth : Json → Reading Bool :=
  converted asTruth

/-- Items read one by one, numbered on from `position`. -/
def itemsFrom {α : Type} (read : Json → Reading α) (position : Nat) :
    List Json → Reading (List α)
  | [] => .valid []
  | item :: rest =>
    List.cons <$> (read item).under (.index position) <*> itemsFrom read (position + 1) rest

/-- A list. -/
def list {α : Type} (read : Json → Reading α) : Json → Reading (List α)
  | .array items => itemsFrom read 0 items
  | value => fail .notList value

/-- An object, read from its fields; `otherwise` is the problem of any other
value. -/
def record {α : Type} (otherwise : ProblemKind)
    (read : List (String × Json) → Reading α) : Json → Reading α
  | .object fields => read fields
  | value => fail otherwise value

end Reading

end SkillTiers
