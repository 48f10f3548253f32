/-
# Classifying while rules change

A request to classify counts shares the service with requests that change the rules,
in any order of their steps. It reads the version of one rule set and may decide by
another, one that was loaded while it asked the cache. `overlapped_answer` says what
holds nevertheless: there is an earlier moment of which the answer tells the version,
and the same or a later moment of which it tells the tier; they are the same where
the tier comes from the cache. The answer and what is kept are consistent wherever
the rule sets of both moments have one version.
-/

import SkillTiers.Proofs.Service.Decision

namespace SkillTiers

namespace Service

open Job Progress

variable {ι : Type} [DecidableEq ι]

/-- The rule sets that the engine has on the way through a schedule. -/
def ruleSetsOn (crew : Crew ι Service Response) (schedule : List ι) : Set RuleSet :=
  { set | ∃ front, front <+: schedule ∧ (engineAfter crew front).ruleSet = set }

/-- One engine was there at a moment, and the other at the same or a later one. -/
def Seen (crew : Crew ι Service Response) (schedule : List ι) (engine decider : Engine) :
    Prop :=
  ∃ early late, early <+: late ∧ late <+: schedule ∧
    engine = engineAfter crew early ∧ decider = engineAfter crew late

/-- What holds at every moment while one request classifies counts and the others
reload. -/
structure Overlapping (crew : Crew ι Service Response) (me : ι) (request : Request)
    (schedule : List ι) : Prop where
  built : (engineAfter crew schedule).ruleSet.IsBuilt
  mine : ∃ progress,
    ((crew.after schedule).jobs me).Follows (outline crew.state request) (Responded Answers)
      progress ∧
      Along crew.state request (Seen crew schedule) progress (crew.after schedule).state
  others : ∀ other, other ≠ me →
    ((crew.after schedule).jobs other).Follows (reloading crew.state) (fun _ _ => True) ()

variable {crew : Crew ι Service Response} {me : ι} {request : Request} {schedule : List ι}

theorem seen_now : Seen crew schedule (engineAfter crew schedule) (engineAfter crew schedule) :=
  ⟨schedule, schedule, List.prefix_rfl, List.prefix_rfl, rfl, rfl⟩

theorem Seen.latest {engine : Engine} (hseen : Seen crew schedule engine engine) :
    Seen crew schedule engine (engineAfter crew schedule) := by
  obtain ⟨early, late, hearly, hlate, hengine, -⟩ := hseen
  exact ⟨early, schedule, hearly.trans hlate, List.prefix_rfl, hengine, rfl⟩

theorem Seen.extend {engine decider : Engine} (hseen : Seen crew schedule engine decider)
    (turns : List ι) : Seen crew (schedule ++ turns) engine decider := by
  obtain ⟨early, late, hearly, hlate, hengine⟩ := hseen
  exact ⟨early, late, hearly, hlate.trans (List.prefix_append _ _), hengine⟩

/-- A turn of the request that classifies. -/
theorem Overlapping.turn_mine {sets : Set RuleSet}
    (hoverlap : Overlapping crew me request schedule)
    (hcorrect : crew.state.cache.server.Correct sets)
    (hsets : ruleSetsOn crew schedule ⊆ sets) :
    Overlapping crew me request (schedule ++ [me]) := by
  obtain ⟨hbuilt, ⟨progress, hjob, halong⟩, hothers⟩ := hoverlap
  let now := (crew.after schedule).state
  let invariant : Progress → Service → Prop := fun progress service =>
    service.engine = now.engine ∧
      Along crew.state request (Seen crew schedule) progress service
  have hthink (progress : Progress) (service : Service) (later : Progress) (changed : Service)
      (hkept : invariant progress service)
      (hmove : (outline crew.state request).think progress service later changed) :
      invariant later changed := by
    obtain ⟨hengine, halong⟩ := hkept
    refine ⟨hmove.engine.trans hengine, halong.thinks ?_ ?_ hmove⟩
    · rw [hengine]
      exact seen_now
    · rw [hengine]
      exact fun _ hseen => hseen.latest
  obtain ⟨later, hleft, hturn⟩ :=
    hjob.turn (fun _ _ hkept => hkept.2.known) hthink (And.intro rfl halong)
  have hkept : invariant later ((crew.after schedule).jobs me |>.turn now).2 := by
    rcases hturn with hcall | hkept
    · refine ⟨hcall.engine, halong.calls hcorrect ?_ hcall⟩
      rintro engine ⟨early, late, hearly, hlate, hengine, -⟩
      exact hsets ⟨early, hearly.trans hlate, congrArg Engine.ruleSet hengine.symm⟩
    · exact hkept
  refine ⟨?_, ⟨later, ?_, ?_⟩, ?_⟩
  · unfold engineAfter
    rw [Crew.after_concat]
    exact hkept.1 ▸ hbuilt
  · rw [Crew.after_concat, Crew.turn_jobs_self]
    exact hleft
  · rw [Crew.after_concat]
    exact hkept.2.mono fun _ _ hseen => hseen.extend _
  · intro other hother
    rw [Crew.after_concat, Crew.turn_jobs_of_ne _ hother]
    exact hothers other hother

/-- A turn of a request that reloads. -/
theorem Overlapping.turn_other (hoverlap : Overlapping crew me request schedule) {other : ι}
    (hother : other ≠ me) : Overlapping crew me request (schedule ++ [other]) := by
  obtain ⟨hbuilt, ⟨progress, hjob, halong⟩, hothers⟩ := hoverlap
  let now := (crew.after schedule).state
  have hsettings {service : Service} (hreloads : Reloads now service) :
      (reloading crew.state).known service :=
    ⟨hreloads.role.trans halong.role, hreloads.config.trans halong.config⟩
  obtain ⟨later, hleft, hturn⟩ := (hothers other hother).turn
    (fun _ service (hkept : Reloads now service) => hsettings hkept)
    (fun _ _ _ _ hkept hmove => Reloads.trans hkept hmove) (reloads_refl now)
  have hreloads : Reloads now (((crew.after schedule).jobs other).turn now).2 := by
    rcases hturn with hcall | hkept
    · exact hcall
    · exact hkept
  refine ⟨?_, ⟨progress, ?_, ?_⟩, ?_⟩
  · unfold engineAfter
    rw [Crew.after_concat]
    rcases hreloads.ruleSet with hsame | hcompiled
    · exact hsame ▸ hbuilt
    · exact hcompiled
  · rw [Crew.after_concat, Crew.turn_jobs_of_ne _ (Ne.symm hother)]
    exact hjob
  · rw [Crew.after_concat]
    exact (halong.reloads hreloads).mono fun _ _ hseen => hseen.extend _
  · intro third hthird
    rw [Crew.after_concat]
    by_cases hsame : third = other
    · rw [hsame, Crew.turn_jobs_self]
      exact hleft
    · rw [Crew.turn_jobs_of_ne _ hsame]
      exact hothers third hthird

/-- The requests of a crew: one that classifies counts, and others that do not. -/
structure Classifies (crew : Crew ι Service Response) (me : ι) (request : Request) : Prop where
  mine : crew.jobs me = answer request
  counts : ∃ ruleId, destinationOf crew.state request = .endpoint .classifyCounts ruleId
  others : ∀ other, other ≠ me → ∃ request', crew.jobs other = answer request' ∧
    ∀ ruleId, destinationOf crew.state request' ≠ .endpoint .classifyCounts ruleId

/-- What holds at every moment of a schedule, by induction on its turns. -/
theorem Classifies.overlapping {sets : Set RuleSet} (hcrew : Classifies crew me request)
    (hbuilt : crew.state.engine.ruleSet.IsBuilt)
    (hcorrect : crew.state.cache.server.Correct sets)
    (hsets : ruleSetsOn crew schedule ⊆ sets) : Overlapping crew me request schedule := by
  induction schedule using List.reverseRecOn with
  | nil =>
      obtain ⟨ruleId, hcounts⟩ := hcrew.counts
      refine ⟨hbuilt, ⟨.arrived, ?_, along_start⟩, ?_⟩
      · rw [Crew.after_nil, hcrew.mine]
        exact answer_follows hcounts
      · intro other hother
        obtain ⟨request', hjob, hleads⟩ := hcrew.others other hother
        rw [Crew.after_nil, hjob]
        exact answer_reloads hleads
  | append_singleton front member ih =>
      have hfront : ruleSetsOn crew front ⊆ sets := by
        rintro set ⟨early, hearly, hset⟩
        exact hsets ⟨early, hearly.trans (List.prefix_append _ _), hset⟩
      by_cases hmember : member = me
      · rw [hmember]
        exact (ih hfront).turn_mine hcorrect hfront
      · exact (ih hfront).turn_other hmember

/-- While other requests change the rules, in any order of all steps, an answer of
status 200 to a request to classify counts tells the version of one moment and the
tier of the same or a later one. A tier from the cache is that of the first moment.
Any other is that of the second, and at most it is kept, under the version of the
first. If the versions of both moments are the same, then the answer tells the tier
of the version it reports, and all decisions on the cache server are correct. -/
theorem overlapped_answer (hcrew : Classifies crew me request)
    (hbuilt : crew.state.engine.ruleSet.IsBuilt)
    (hcorrect : crew.state.cache.server.Correct (ruleSetsOn crew schedule))
    (hdiffer : RuleSet.DigestsDiffer (ruleSetsOn crew schedule)) {response : Response}
    (hended : ((crew.after schedule).jobs me).outcome? = some (.ok response))
    (hstatus : response.status = 200) :
    ∃ early late whole tier isCached, early <+: late ∧ late <+: schedule ∧
      Asks request whole ∧
      Tells response.body tier (engineAfter crew early) isCached ∧
      (engineAfter crew late).classify whole.toCounts = .ok tier ∧
      (isCached = true → engineAfter crew early = engineAfter crew late) ∧
      (∀ entry ∈ (crew.after schedule).state.cache.server.entries,
        entry ∈ crew.state.cache.server.entries ∨
          isCached = false ∧ entry.value = tier.name ∧
            entry.key = ResultCache.keyText (engineAfter crew early).version
              crew.state.engine.policy.name whole.toCounts) ∧
      ((engineAfter crew early).version = (engineAfter crew late).version →
        (engineAfter crew early).classify whole.toCounts = .ok tier ∧
        (crew.after schedule).state.cache.server.Correct (ruleSetsOn crew schedule)) := by
  have hmoment {front : List ι} (hfront : front <+: schedule) :
      Overlapping crew me request front := by
    apply hcrew.overlapping hbuilt hcorrect
    rintro set ⟨early, hearly, hset⟩
    exact ⟨early, hearly.trans hfront, hset⟩
  have hpolicy {front : List ι} (hfront : front <+: schedule) :
      (engineAfter crew front).policy = crew.state.engine.policy := by
    obtain ⟨progress, -, halong⟩ := (hmoment hfront).mine
    exact halong.policy
  have hsets : ∀ set ∈ ruleSetsOn crew schedule, set.IsBuilt := by
    rintro set ⟨front, hfront, rfl⟩
    exact (hmoment hfront).built
  obtain ⟨progress, hjob, halong⟩ := (hmoment List.prefix_rfl).mine
  have htold : Told progress response.body := by
    cases hleft : (crew.after schedule).jobs me with
    | done outcome =>
        rw [hleft] at hended hjob
        exact hjob response (Option.some.inj hended) hstatus
    | touch act next =>
        rw [hleft] at hended
        cases hended
    | call act next =>
        rw [hleft] at hended
        cases hended
  have hfits := halong.fits
  have hentered := halong.entered
  cases progress with
  | arrived => cases htold
  | asked engine => cases htold
  | found engine tier =>
      obtain ⟨⟨early, late, hearly, hlate, rfl, hsame⟩, whole, hasks, htier⟩ := hfits
      refine ⟨early, late, whole, tier, true, hearly, hlate, hasks, htold, hsame ▸ htier,
        fun _ => hsame, fun entry hmem => .inl (hentered entry hmem), fun _ => ⟨htier, ?_⟩⟩
      exact hcorrect.of_subset hentered
  | decided engine decider tier =>
      obtain ⟨⟨early, late, hearly, hlate, rfl, rfl⟩, -, whole, hasks, htier⟩ := hfits
      obtain ⟨whole', hasks', hgains⟩ := hentered
      cases hasks.symm.trans hasks'
      refine ⟨early, late, whole, tier, false, hearly, hlate, hasks, htold, htier,
        nofun, ?_, ?_⟩
      · intro entry hmem
        rcases hgains entry hmem with hold | ⟨hkey, hvalue⟩
        · exact .inl hold
        · exact .inr ⟨rfl, hvalue, hkey⟩
      · intro hversion
        have hearly' := hearly.trans hlate
        refine ⟨?_, ?_⟩
        · rw [← htier]
          exact Engine.classify_congr ((hpolicy hearly').trans (hpolicy hlate).symm)
            (RuleSet.classify_of_version hdiffer ⟨early, hearly', rfl⟩ ⟨late, hlate, rfl⟩
              (hmoment hearly').built (hmoment hlate).built hversion) _
        · apply halong.correct hcorrect hdiffer hsets
          · rintro _ _ ⟨first, second, hfirst, hsecond, rfl, rfl⟩
            exact ⟨⟨first, hfirst.trans hsecond, rfl⟩, second, hsecond, rfl⟩
          · rintro _ _ _ hprogress
            cases hprogress
            exact hversion

/-- What is shown of an outcome is told by an answer. -/
private theorem tells_of_outcome {outcome? : Option (Outcome Response)} {tier : Tier}
    {engine : Engine} {isCached : Bool}
    (hshown : outcome?.bind shown = some (tier.name, engine.version, isCached)) :
    ∃ response, outcome? = some (.ok response) ∧ response.status = 200 ∧
      Tells response.body tier engine isCached := by
  obtain ⟨outcome, hended, houtcome⟩ := Option.bind_eq_some_iff.mp hshown
  obtain ⟨response, rfl, htold⟩ := tells_of_shown houtcome
  exact ⟨response, hended, htold⟩

/-- Counts are classified while two of three rules are deleted: the rule that counts, which
takes nobody for an expert, and one that does not count. -/
def tidying : Crew (Fin 3) Service Response where
  state := plainWith
    (.ofRules [RuleSet.expertRule "strict" 999, RuleSet.expertRule "lenient" 0,
      RuleSet.expertRule "spare" 0])
    [expertRow "strict" 999, expertRow "lenient" 0, expertRow "spare" 0] []
  jobs
    | 0 => answer oneHigh
    | 1 => answer (deletion "strict")
    | 2 => answer (deletion "spare")

/-- The first deletion comes before the look-up, and the second one between look-up and
decision. -/
def tidily : List (Fin 3) :=
  List.replicate 8 1 ++ List.replicate 2 0 ++ List.replicate 8 2 ++ List.replicate 4 0

theorem classifies_tidying : Classifies tidying 0 oneHigh := by
  have hdeletes (id : String)
      (hleads : destinationOf tidying.state (deletion id) = .endpoint .deleteRule id)
      (ruleId : String) :
      destinationOf tidying.state (deletion id) ≠ .endpoint .classifyCounts ruleId := by
    rw [hleads]
    exact nofun
  refine ⟨rfl, ⟨"", rfl⟩, ?_⟩
  intro other hother
  match other with
  | 0 => exact absurd rfl hother
  | 1 => exact ⟨deletion "strict", rfl, hdeletes "strict" rfl⟩
  | 2 => exact ⟨deletion "spare", rfl, hdeletes "spare" rfl⟩

/-- There are two canonical texts on the way, before the first deletion and after it, and their
digests differ. -/
private theorem digestsDiffer_tidying : RuleSet.DigestsDiffer (ruleSetsOn tidying tidily) := by
  apply RuleSet.digestsDiffer_of_two tidying.state.engine.ruleSet.text
    (engineAfter tidying tidily).ruleSet.text
  · rintro set ⟨front, hfront, rfl⟩ -
    have htexts : ∀ front ∈ tidily.inits,
        (engineAfter tidying front).ruleSet.text = tidying.state.engine.ruleSet.text ∨
        (engineAfter tidying front).ruleSet.text = (engineAfter tidying tidily).ruleSet.text := by
      decide +kernel
    exact htexts front ((List.mem_inits _ _).mpr hfront)
  · decide +kernel

/-- The version is the last one from the fourth turn on. -/
private theorem version_tidying {front : List (Fin 3)} (hfront : front <+: tidily) :
    (engineAfter tidying front).version = (engineAfter tidying tidily).version ↔
      4 ≤ front.length := by
  have hversions : ∀ front ∈ tidily.inits,
      (engineAfter tidying front).version = (engineAfter tidying tidily).version ↔
        4 ≤ front.length := by decide +kernel
  exact hversions front ((List.mem_inits _ _).mpr hfront)

/-- The answer tells the version that the engine has after the first deletion, and the tier of
that version, although rules are loaded before it is decided. -/
theorem overlapped_answer_tidying :
    ∃ response early late tier,
      ((tidying.after tidily).jobs 0).outcome? = some (.ok response) ∧
      early <+: late ∧ late <+: tidily ∧
      Tells response.body tier (engineAfter tidying early) false ∧
      (engineAfter tidying early).version ≠ tidying.state.engine.version ∧
      (engineAfter tidying early).classify oneHighCounts.toCounts = .ok tier ∧
      (tidying.after tidily).state.cache.server.Correct (ruleSetsOn tidying tidily) := by
  have hbuilt : tidying.state.engine.ruleSet.IsBuilt := by
    rw [tidying, ruleSet_plainWith]
    exact RuleSet.isBuilt_ofRules _
  have hcorrect : tidying.state.cache.server.Correct (ruleSetsOn tidying tidily) :=
    CacheServer.correct_of_no_key fun entry hmem => absurd hmem List.not_mem_nil
  have hshown : ((tidying.after tidily).jobs 0).outcome?.bind shown =
      some (Tier.expert.name, (engineAfter tidying tidily).version, false) := by decide +kernel
  obtain ⟨response, hended, hstatus, -, hversion, hfresh⟩ := tells_of_outcome hshown
  obtain ⟨early, late, whole, tier, isCached, hearly, hlate, hasks, htells, -, -, -, hconsistent⟩ :=
    overlapped_answer classifies_tidying hbuilt hcorrect digestsDiffer_tidying hended hstatus
  cases hasks.symm.trans (rfl : Asks oneHigh oneHighCounts)
  obtain rfl : isCached = false :=
    Json.bool.inj (Option.some.inj (htells.2.2.symm.trans hfresh))
  -- The version that is told is the last one, so both moments come after the first deletion.
  have hsame : (engineAfter tidying early).version = (engineAfter tidying tidily).version :=
    Json.string.inj (Option.some.inj (htells.2.1.symm.trans hversion))
  have hreached := (version_tidying (hearly.trans hlate)).mp hsame
  have hlater := (version_tidying hlate).mpr (hreached.trans hearly.length_le)
  obtain ⟨htier, hentries⟩ := hconsistent (hsame.trans hlater.symm)
  refine ⟨response, early, late, tier, hended, hearly, hlate, htells, ?_, htier, hentries⟩
  rw [hsame]
  decide +kernel

/-- The turns of a deletion that comes between look-up and decision. -/
def between : List Bool :=
  [true, true] ++ List.replicate 8 false ++ List.replicate 4 true

/-- A request to classify counts beside the deletion of a rule. -/
def besideDeletion (state : Service) (id : String) : Crew Bool Service Response where
  state := state
  jobs := fun isMine => if isMine then answer oneHigh else answer (deletion id)

theorem classifies_besideDeletion {state : Service} {id : String}
    (hcounts : destinationOf state oneHigh = .endpoint .classifyCounts "")
    (hdeletes : destinationOf state (deletion id) = .endpoint .deleteRule id) :
    Classifies (besideDeletion state id) true oneHigh := by
  refine ⟨rfl, ⟨"", hcounts⟩, ?_⟩
  intro other hother
  refine ⟨deletion id, ?_, ?_⟩
  · rw [Bool.not_eq_true other |>.mp hother]
    rfl
  · intro ruleId hclassifies
    have hsame := hdeletes.symm.trans hclassifies
    cases hsame

/-- A rule that takes everyone for an expert is deleted. -/
def deleting : Crew Bool Service Response :=
  besideDeletion (plainWith .lenient
    [expertRow "d67c0e40de202bd2" 0] [])
    "d67c0e40de202bd2"

/-- A decision of that rule is left when there is a rule that takes nobody for an
expert. -/
def colliding : Crew Bool Service Response :=
  besideDeletion (plainWith .demanding
    [expertRow "6d94551663032085" 999]
    [⟨ResultCache.keyText RuleSet.lenient.version "nan" oneHighCounts.toCounts, 300,
      Tier.expert.name⟩])
    "6d94551663032085"

/-- An answer need not tell the tier of the version that it reports. A deletion can
come between, and then the tier that is kept is wrong for the version, too; and two
rule sets can have one version. -/
theorem overlapped_answer_inconsistent :
    RuleSet.lenient.IsBuilt ∧ RuleSet.demanding.IsBuilt ∧
    (Classifies deleting true oneHigh ∧ deleting.state.engine.ruleSet = .lenient ∧
      deleting.state.cache.server.entries = [] ∧
      (∃ response, ((deleting.after between).jobs true).outcome? = some (.ok response) ∧
        response.status = 200 ∧ Tells response.body .beginner deleting.state.engine false) ∧
      ((deleting.after between).state.cache.server.entries.map fun entry =>
        (entry.key, entry.value)) = [(ResultCache.keyText RuleSet.lenient.version "nan"
          oneHighCounts.toCounts, Tier.beginner.name)] ∧
      deleting.state.engine.classify oneHighCounts.toCounts = .ok .expert) ∧
    (Classifies colliding true oneHigh ∧ colliding.state.engine.ruleSet = .demanding ∧
      (∃ response, ((colliding.after between).jobs true).outcome? = some (.ok response) ∧
        response.status = 200 ∧ Tells response.body .expert colliding.state.engine true) ∧
      colliding.state.engine.classify oneHighCounts.toCounts = .ok .beginner) := by
  refine ⟨RuleSet.isBuilt_lenient, RuleSet.isBuilt_demanding,
    ⟨classifies_besideDeletion rfl rfl, rfl, rfl, tells_of_outcome ?_, ?_, ok_of_toOption ?_⟩,
    ⟨classifies_besideDeletion rfl rfl, rfl, tells_of_outcome ?_, ok_of_toOption ?_⟩⟩
  all_goals decide +kernel

end Service

end SkillTiers
