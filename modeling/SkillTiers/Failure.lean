/-
# Failures

Everything that can go wrong is a cause. Service errors are those that a caller
is meant to see: each has a code, an HTTP status, a message and details. The
others are unexpected, and only their message is kept. Faults are failures of
the database or of the cache server.
-/

import SkillTiers.Json.Basic
import SkillTiers.Number.Numeral
import SkillTiers.Text.Quoted

namespace SkillTiers

/-- An error with a code and a status of its own. -/
inductive ServiceError where
  /-- An error of no further class, with its code. -/
  | general (code message : String) (details : List (String × Json))
  /-- The acting user is missing or unknown. -/
  | authentication (message : String) (details : List (String × Json))
  /-- The input breaks a rule of the service. -/
  | validation (message : String) (details : List (String × Json))
  /-- There is no rule with this id. -/
  | ruleNotFound (ruleId : String) (details : List (String × Json))
  /-- The rule store is out of order. -/
  | persistence (message : String) (details : List (String × Json))
  /-- The result cache is out of order. -/
  | cache (message : String) (details : List (String × Json))

namespace ServiceError

/-- The word that identifies the class of the error. -/
def code : ServiceError → String
  | .general code _ _ => code
  | .authentication _ _ => "AUTHENTICATION_ERROR"
  | .validation _ _ => "VALIDATION_ERROR"
  | .ruleNotFound _ _ => "RULE_NOT_FOUND"
  | .persistence _ _ => "PERSISTENCE_ERROR"
  | .cache _ _ => "CACHE_ERROR"

/-- The HTTP status of an answer that reports the error. -/
def status : ServiceError → Nat
  | .general _ _ _ => 400
  | .authentication _ _ => 401
  | .validation _ _ => 422
  | .ruleNotFound _ _ => 404
  | .persistence _ _ => 503
  | .cache _ _ => 503

/-- What went wrong, in words. -/
def message : ServiceError → String
  | .general _ message _ => message
  | .authentication message _ => message
  | .validation message _ => message
  | .ruleNotFound ruleId _ => "Rule " ++ ruleId ++ " not found"
  | .persistence message _ => message
  | .cache message _ => message

/-- The particulars of the error. -/
def details : ServiceError → List (String × Json)
  | .general _ _ details => details
  | .authentication _ details => details
  | .validation _ details => details
  | .ruleNotFound _ details => details
  | .persistence _ details => details
  | .cache _ details => details

/-- The rule that was not found. -/
def ruleId? : ServiceError → Option String
  | .ruleNotFound ruleId _ => some ruleId
  | _ => none

/-- The error of a request without an acting user. -/
def notAuthenticated : ServiceError :=
  .authentication "User not authenticated" []

/-- The error of input that is refused for no stated reason. -/
def notValid : ServiceError :=
  .validation "Validation failed" []

/-- The error of a rule store that fails for no stated reason. -/
def storeFailed : ServiceError :=
  .persistence "Rule store error" []

/-- The error of a result cache that fails for no stated reason. -/
def cacheFailed : ServiceError :=
  .cache "Cache error" []

/-- The body of an answer that reports the error. -/
def body (error : ServiceError) (requestId : Option String) : Json :=
  .object [
    ("request_id", .ofString? requestId),
    ("code", .string error.code),
    ("message", .string error.message),
    ("details", .object error.details)]

end ServiceError

/-- A failure of an outside server. -/
inductive Fault where
  /-- The database connection is misused or lost. -/
  | interface
  /-- The database rejects a statement. -/
  | postgres
  /-- The operating system fails a call. -/
  | os
  /-- Anything else goes wrong in a call. -/
  | runtime
  /-- The cache server fails a call. -/
  | redis
  /-- A row with the same id is there already. -/
  | duplicateKey
deriving DecidableEq, Repr

namespace Fault

/-- What an outside server says of its failure. -/
def message : Fault → String
  | .interface => "injected interface"
  | .postgres => "injected postgres"
  | .os => "injected os"
  | .runtime => "injected runtime"
  | .redis => "injected redis"
  | .duplicateKey => "duplicate key"

/-- Whether the failure comes from the database itself. -/
def isDatabase : Fault → Bool
  | .interface | .postgres | .duplicateKey => true
  | _ => false

end Fault

/-- What is going on with a text when values in one another become too many. -/
inductive TextActivity where
  | readingObject
  | readingArray
  | writing
deriving DecidableEq, Repr

namespace TextActivity

/-- What is going on, in words. -/
def words : TextActivity → String
  | .readingObject => "decoding a JSON object from a unicode string"
  | .readingArray => "decoding a JSON array from a unicode string"
  | .writing => "encoding a JSON object"

end TextActivity

/-- A cause of failure. -/
inductive Failure where
  /-- A text names no tier. -/
  | unknownTier (text : String)
  /-- A text names no policy for empty totals. -/
  | unknownPolicy (text : String)
  /-- A text names no log level. -/
  | unknownLogLevel (text : String)
  /-- A number leaves the range of doubles. -/
  | overflow (cause : Overflow)
  /-- A stored text is not JSON. -/
  | malformedJson
  /-- An integer has more digits than a text ever has; the number of these where they
  stand in a text. -/
  | tooManyDigits (count : Option Nat)
  /-- Objects and arrays lie in one another, more than in any text. -/
  | tooDeep (activity : TextActivity)
  /-- Conditions lie in one another, more than are read or written. -/
  | tooNested
  /-- A stored value of this kind stands where a list should. -/
  | notAList (kind : String)
  /-- A stored value of this kind stands where an object should. -/
  | notAnObject (kind : String)
  /-- A value of this kind stands where a text should, and has no parts. -/
  | notSearchable (kind : String)
  /-- A value of this kind stands where a text should, and has parts. -/
  | notText (kind : String)
  /-- Values of these kinds have no sum. -/
  | noSum (first second : String)
  /-- A value of the first kind can only be joined with another of it. -/
  | notJoinable (first second : String)
  /-- Values of these kinds have no quotient. -/
  | noQuotient (first second : String)
  /-- An answer holds a number that is not finite. -/
  | notFinite
  /-- An answer holds too many values in one another. -/
  | tooHigh
  /-- The labels of a sample are not those of its meter. -/
  | wrongLabels
  /-- A sample comes without the labels of its meter. -/
  | missingLabels
  /-- The meter with this name has no labels. -/
  | unlabelledMeter (name : String)
  /-- A value of this kind is no duration. -/
  | notDuration (kind : String)
  /-- A meter that measures durations cannot count. -/
  | durationCounted
  /-- A meter that counts cannot measure durations. -/
  | counterTimed
  /-- An outside server fails. -/
  | fault (cause : Fault)
  /-- A service error. -/
  | service (error : ServiceError)

namespace Failure

/-- What went wrong, in words. -/
def message : Failure → String
  | .unknownTier text => quoted text ++ " is not a valid Tier"
  | .unknownPolicy text => quoted text ++ " is not a valid ZeroTotalPolicy"
  | .unknownLogLevel text => "module 'logging' has no attribute '" ++ text ++ "'"
  | .overflow .conversion => "int too large to convert to float"
  | .overflow .division => "integer division result too large for a float"
  | .malformedJson => ""
  | .tooManyDigits count => "Exceeds the limit (" ++ toString Numeral.maxDigits
      ++ " digits) for integer string conversion"
      ++ count.elim "" (fun count => ": value has " ++ toString count ++ " digits")
      ++ "; use sys.set_int_max_str_digits() to increase the limit"
  | .tooDeep activity => "maximum recursion depth exceeded while " ++ activity.words
  | .tooNested => "maximum recursion depth exceeded"
  | .notAList kind => "'" ++ kind ++ "' object is not iterable"
  | .notAnObject kind => "'" ++ kind ++ "' object has no attribute 'get'"
  | .notSearchable kind => "argument of type '" ++ kind ++ "' is not iterable"
  | .notText kind => "'" ++ kind ++ "' object has no attribute 'split'"
  | .noSum first second =>
    "unsupported operand type(s) for +: '" ++ first ++ "' and '" ++ second ++ "'"
  | .notJoinable first second =>
    "can only concatenate " ++ first ++ " (not \"" ++ second ++ "\") to " ++ first
  | .noQuotient first second =>
    "unsupported operand type(s) for /: '" ++ first ++ "' and '" ++ second ++ "'"
  | .notFinite => "Out of range float values are not JSON compliant"
  | .tooHigh => "Circular reference detected (depth exceeded)"
  | .wrongLabels => "Incorrect label names"
  | .missingLabels => "Incorrect label count"
  | .unlabelledMeter name => "No label names were set when constructing info:" ++ name
  | .notDuration kind => "unsupported operand type(s) for +=: 'float' and '" ++ kind ++ "'"
  | .durationCounted => "'Histogram' object has no attribute 'inc'"
  | .counterTimed => "'Counter' object has no attribute 'observe'"
  | .fault cause => cause.message
  | .service error => error.message

end Failure

/-- The outcome of an operation that can fail. -/
abbrev Outcome (α : Type) : Type :=
  Except Failure α

/-- The outcome of reading a stored text. -/
def Outcome.ofReading {α : Type} : Except ReadError α → Outcome α
  | .ok value => .ok value
  | .error .malformed => .error .malformedJson
  | .error (.tooManyDigits count) => .error (.tooManyDigits (some count))
  | .error (.tooDeep isObject) =>
    .error (.tooDeep (if isObject then .readingObject else .readingArray))

/-- The outcome of making a text, of which there is none where none can be read. -/
def Outcome.ofWriting {α : Type} : Except ReadError α → Outcome α
  | .ok value => .ok value
  | .error .malformed => .error .malformedJson
  | .error (.tooManyDigits _) => .error (.tooManyDigits none)
  | .error (.tooDeep _) => .error (.tooDeep .writing)

/-- The outcome of arithmetic, with its overflow as a failure. -/
def Outcome.ofArithmetic {α : Type} : Except Overflow α → Outcome α
  | .ok value => .ok value
  | .error cause => .error (.overflow cause)

end SkillTiers
