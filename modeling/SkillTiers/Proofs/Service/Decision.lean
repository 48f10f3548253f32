/-
# What decisions on counts rest on

`Along` is what holds of a request to classify counts on its whole course: the tier
it has come to is the tier that some engine gives, and beyond what the cache server
held at first there is at most that tier, under the version that was read first.
Which engines these may be is a parameter, a relation `seen` between an engine that
was there and one that was there at the same time or later; so it does not matter
here whether others work on the service in the meantime.
-/

import SkillTiers.Proofs.Service.Classifying

namespace SkillTiers

namespace Service

open Progress

/-- The engines on the course of a request are among those that were seen, and give
the tier it has come to. -/
def Fits (start : Service) (request : Request) (seen : Engine → Engine → Prop) :
    Progress → Prop
  | .arrived => True
  | .asked engine => seen engine engine ∧ engine.policy = start.engine.policy
  | .found engine tier => seen engine engine ∧
      ∃ whole, Asks request whole ∧ engine.classify whole.toCounts = .ok tier
  | .decided engine decider tier => seen engine decider ∧
      decider.policy = start.engine.policy ∧
      ∃ whole, Asks request whole ∧ decider.classify whole.toCounts = .ok tier

/-- Beyond the entries at first, the server holds at most the decided tier. -/
def Entered (start : Service) (request : Request) (server : CacheServer) : Progress → Prop
  | .decided engine _ tier => ∃ whole, Asks request whole ∧
      CacheServer.Gains
        (ResultCache.keyText engine.version start.engine.policy.name whole.toCounts) tier
        start.cache.server server
  | _ => ∀ entry ∈ server.entries, entry ∈ start.cache.server.entries

/-- What holds on the course of a request that finds a service at first. -/
structure Along (start : Service) (request : Request) (seen : Engine → Engine → Prop)
    (progress : Progress) (service : Service) : Prop where
  role : service.role = start.role
  config : service.config = start.config
  policy : service.engine.policy = start.engine.policy
  fits : Fits start request seen progress
  entered : Entered start request service.cache.server progress

variable {start service left : Service} {request : Request} {seen : Engine → Engine → Prop}
  {progress later : Progress} {sets : Set RuleSet}

theorem along_start : Along start request seen .arrived start :=
  ⟨rfl, rfl, rfl, trivial, fun _ hmem => hmem⟩

theorem Along.known (halong : Along start request seen progress service) :
    (outline start request).known service :=
  ⟨halong.role, halong.config, halong.policy⟩

/-- Reloads and dropped entries do not disturb the request. -/
theorem Along.reloads (halong : Along start request seen progress service)
    (hreloads : Reloads service left) : Along start request seen progress left where
  role := hreloads.role.trans halong.role
  config := hreloads.config.trans halong.config
  policy := hreloads.policy.trans halong.policy
  fits := halong.fits
  entered := by
    have hentered := halong.entered
    cases progress with
    | decided engine decider tier =>
        obtain ⟨whole, hasks, hgains⟩ := hentered
        exact ⟨whole, hasks, fun entry hmem => hgains entry (hreloads.entries entry hmem)⟩
    | _ => exact fun entry hmem => hentered entry (hreloads.entries entry hmem)

/-- More may have been seen. -/
theorem Along.mono {seen' : Engine → Engine → Prop}
    (halong : Along start request seen progress service)
    (hseen : ∀ engine decider, seen engine decider → seen' engine decider) :
    Along start request seen' progress service where
  role := halong.role
  config := halong.config
  policy := halong.policy
  entered := halong.entered
  fits := by
    have hfits := halong.fits
    cases progress with
    | arrived => exact trivial
    | asked engine => exact ⟨hseen _ _ hfits.1, hfits.2⟩
    | found engine tier => exact ⟨hseen _ _ hfits.1, hfits.2⟩
    | decided engine decider tier => exact ⟨hseen _ _ hfits.1, hfits.2⟩

/-- Work in memory keeps what holds, if the engine of the moment is seen, and seen
later than the others. -/
theorem Along.thinks (halong : Along start request seen progress service)
    (hnow : seen service.engine service.engine)
    (hlatest : ∀ engine, seen engine engine → seen engine service.engine)
    (hmove : (outline start request).think progress service later left) :
    Along start request seen later left := by
  cases hmove with
  | idle hidle => exact halong.reloads hidle.reloads
  | ask hidle =>
      have hkept := halong.reloads hidle.reloads
      exact ⟨hkept.role, hkept.config, hkept.policy, ⟨hnow, halong.policy⟩, hkept.entered⟩
  | decide hidle hasks htier =>
      have hkept := halong.reloads hidle.reloads
      exact ⟨hkept.role, hkept.config, hkept.policy,
        ⟨hlatest _ halong.fits.1, halong.policy, _, hasks, htier⟩,
        _, hasks, fun entry hmem => .inl (hkept.entered entry hmem)⟩

/-- A call keeps what holds, if the decisions at first were correct. -/
theorem Along.calls (halong : Along start request seen progress service)
    (hcorrect : start.cache.server.Correct sets)
    (hsets : ∀ engine, seen engine engine → engine.ruleSet ∈ sets)
    (hmove : (outline start request).ask progress service later left) :
    Along start request seen later left := by
  cases hmove with
  | idle hidle => exact halong.reloads hidle.reloads
  | find hidle hasks hmem hkey hvalue =>
      have hkept := halong.reloads hidle.reloads
      obtain ⟨hseen, hpolicy⟩ := halong.fits
      rw [← hpolicy] at hkey
      have htier := hcorrect.found (hsets _ hseen) (halong.entered _ hmem) hkey hvalue
      exact ⟨hkept.role, hkept.config, hkept.policy, ⟨hseen, _, hasks, htier⟩, hkept.entered⟩
  | keep hasks hkeeps =>
      refine ⟨hkeeps.role.trans halong.role, hkeeps.config.trans halong.config,
        (congrArg Engine.policy hkeeps.engine).trans halong.policy, halong.fits, _, hasks, ?_⟩
      obtain ⟨whole, hasks', hgains⟩ := halong.entered
      cases hasks.symm.trans hasks'
      intro entry hmem
      rcases hkeeps.entries entry hmem with hold | hnew
      · exact hgains entry hold
      · exact .inr hnew

/-- The decisions stay correct if the engine that decides has the version that was
read. -/
theorem Along.correct (halong : Along start request seen progress service)
    (hcorrect : start.cache.server.Correct sets) (hdiffer : RuleSet.DigestsDiffer sets)
    (hbuilt : ∀ set ∈ sets, set.IsBuilt)
    (hsets : ∀ engine decider, seen engine decider →
      engine.ruleSet ∈ sets ∧ decider.ruleSet ∈ sets)
    (hversion : ∀ engine decider tier, progress = .decided engine decider tier →
      engine.version = decider.version) :
    service.cache.server.Correct sets := by
  have hentered := halong.entered
  have hfits := halong.fits
  cases progress with
  | decided engine decider tier =>
      obtain ⟨whole, hasks, hgains⟩ := hentered
      obtain ⟨hseen, hpolicy, whole', hasks', htier⟩ := hfits
      cases hasks.symm.trans hasks'
      rw [hversion engine decider tier rfl, ← hpolicy] at hgains
      exact hcorrect.gains hdiffer hbuilt (hsets _ _ hseen).2 htier hgains
  | _ => exact hcorrect.of_subset hentered

end Service

end SkillTiers
