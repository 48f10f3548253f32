/-
# Operands

The left side of a comparison names a metric or a sum of metrics, with a plus
sign between the names; blanks around a name do not matter. A name that is not
known is kept as it stands and counts as zero. `Operand.text` shows an operand in
the form that reads back to it.
-/

import SkillTiers.SkillMetrics
import SkillTiers.Text.Blank

namespace SkillTiers

/-- The names under which conditions refer to metrics. -/
inductive MetricName where
  | highPercent
  | mediumPercent
  | lowPercent
  | highCount
  | mediumCount
  | lowCount
  | highPercentLong
  | mediumPercentLong
  | lowPercentLong
  | total
deriving DecidableEq, Repr

namespace MetricName

/-- All names. -/
def all : List MetricName :=
  [highPercent, mediumPercent, lowPercent, highCount, mediumCount, lowCount,
    highPercentLong, mediumPercentLong, lowPercentLong, total]

/-- The spelling of a name. The long spellings are those of older rules. -/
def spelling : MetricName → String
  | .highPercent => "high%"
  | .mediumPercent => "medium%"
  | .lowPercent => "low%"
  | .highCount => "highCount"
  | .mediumCount => "mediumCount"
  | .lowCount => "lowCount"
  | .highPercentLong => "highPercent"
  | .mediumPercentLong => "mediumPercent"
  | .lowPercentLong => "lowPercent"
  | .total => "totalSubskills"

/-- The name with exactly this spelling. -/
def ofSpelling? (text : String) : Option MetricName :=
  all.find? (·.spelling == text)

/-- Whether the name stands for a percentage. -/
def isPercentage : MetricName → Bool
  | .highPercent | .mediumPercent | .lowPercent => true
  | .highPercentLong | .mediumPercentLong | .lowPercentLong => true
  | _ => false

/-- The metric that the name stands for. -/
def value (metrics : SkillMetrics) : MetricName → Number
  | .highPercent | .highPercentLong => .float metrics.highPercent
  | .mediumPercent | .mediumPercentLong => .float metrics.mediumPercent
  | .lowPercent | .lowPercentLong => .float metrics.lowPercent
  | .highCount => metrics.highCount
  | .mediumCount => metrics.mediumCount
  | .lowCount => metrics.lowCount
  | .total => metrics.totalSubskills

end MetricName

/-- A reference to one metric, which may be unknown. -/
structure Term where
  text : String
deriving DecidableEq

namespace Term

/-- The term that a text writes. -/
def parse (text : String) : Term :=
  ⟨trimBlanks text⟩

/-- The metric that the term names. -/
def name? (term : Term) : Option MetricName :=
  MetricName.ofSpelling? term.text

/-- Whether the term names a metric. -/
def isKnown (term : Term) : Bool :=
  term.name?.isSome

/-- The metric that the term names; zero where it names none. -/
def value (metrics : SkillMetrics) (term : Term) : Number :=
  match term.name? with
  | some name => name.value metrics
  | none => 0

end Term

/-- A sum of terms. -/
structure Operand where
  terms : List Term
deriving DecidableEq

namespace Operand

/-- The operand of one name, in which a plus sign is a character like any other. -/
def single (text : String) : Operand :=
  ⟨[Term.parse text]⟩

/-- The operand that a text writes, its names parted by plus signs. -/
def parse (text : String) : Operand :=
  ⟨(text.toList.splitOn '+').map fun part => Term.parse (String.ofList part)⟩

/-- The terms that name no metric. -/
def unknown (operand : Operand) : List Term :=
  operand.terms.filter (!·.isKnown)

/-- The sum of the terms, from left to right. -/
def value (metrics : SkillMetrics) (operand : Operand) : Outcome Number :=
  .ofArithmetic (operand.terms.foldlM (fun sum term => sum.add (term.value metrics)) 0)

/-- The terms as text, with a plus sign between them. -/
def text (operand : Operand) : String :=
  String.ofList ([' ', '+', ' '].intercalate (operand.terms.map (·.text.toList)))

end Operand

end SkillTiers
