/-
# Outages

An outside server can be made to fail: after some calls that go well, some calls
fail in the same way. A server with no such plan answers every call.
-/

import SkillTiers.Failure

namespace SkillTiers

/-- The calls that will fail. -/
structure Outage where
  /-- How the calls fail. -/
  fault : Fault
  /-- How many calls go well before the first that fails. -/
  after : Nat
  /-- How many calls fail. -/
  times : Nat

namespace Outage

/-- No call fails. -/
def never : Outage :=
  ⟨.runtime, 0, 0⟩

/-- The fault of the next call, if it fails, and what is left after the call. -/
def next (outage : Outage) : Option Fault × Outage :=
  match outage.after, outage.times with
  | after + 1, _ => (none, { outage with after })
  | 0, times + 1 => (some outage.fault, { outage with times })
  | 0, 0 => (none, outage)

end Outage

end SkillTiers
