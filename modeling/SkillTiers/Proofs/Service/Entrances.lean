/-
# One tier at every entrance

A tier is asked for at four entrances: for counts, for the ratings of a skill, for the
tiers of a category, and for all users of a dashboard at once. Each counts in its own way
and only the first goes through the cache. Still a skill has one tier at all of them
(`Service.same_tier_at_every_entrance`): it is that of the counts that the answer echoes, and
that of every user of a dashboard who has these ratings in a skill with the same total; and
so it is with a category.

What decides is the counts, and counts do not depend on the order of what is counted
(`SkillRatings.whole_congr`, `Tier.whole_congr`). For counts that have a tier a request is
answered, also while the cache server is down.
-/

import SkillTiers.Proofs.Dashboard.Partition
import SkillTiers.Proofs.Service.Availability

namespace SkillTiers

/-! ### What is counted -/

namespace SkillRatings

/-- The tier of the ratings, as the engine gives it. -/
def tier (skill : SkillRatings) (engine : Engine) : Outcome Tier :=
  engine.classifySkill (skill.ratings.map some) (skill.total.map fun total => Number.int total)

theorem tier_eq (skill : SkillRatings) (engine : Engine) :
    skill.tier engine = engine.classify skill.whole.toCounts := by
  rw [tier, Engine.classifySkill, ofRatings_eq]

/-- The order of ratings does not count. -/
theorem whole_congr {first second : SkillRatings} (hratings : first.ratings.Perm second.ratings)
    (htotal : first.total = second.total) : first.whole = second.whole := by
  have hsome := hratings.map some
  simp only [whole, hsome.count_eq, hsome.length_eq, htotal]

end SkillRatings

/-- The order of tiers does not count. -/
theorem Tier.whole_congr {first second : List Tier} (htiers : first.Perm second) :
    whole first = whole second := by
  have hsome := htiers.map some
  simp only [whole, hsome.count_eq, hsome.length_eq]

/-- Counts are read back as they are written. -/
theorem WholeCounts.read_countsJson (whole : WholeCounts) (otherwise : ProblemKind) :
    read otherwise (Service.countsJson whole.toCounts) = .valid whole := by
  have hnatural (value : Nat) : Reading.natural (.number (.int value)) = .valid value := by
    unfold Reading.natural Reading.atLeast Reading.converted
    simp only [Reading.whole, bind, Except.bind, Int.natCast_nonneg, if_true]
    rfl
  obtain ⟨high, medium, low, total⟩ := whole
  have hfields (key : String) (value : Nat) (fields : List (String × Json))
      (hlookup : Json.lookup fields key = some (.number (.int value))) :
      Reading.required fields key Reading.natural = .valid value := by
    rw [Reading.required, hlookup]
    dsimp only
    rw [hnatural, Reading.under]
  unfold read Service.countsJson Reading.record
  dsimp only
  rw [hfields "high_count" high _ rfl, hfields "medium_count" medium _ rfl,
    hfields "low_count" low _ rfl, hfields "total" total _ rfl]
  rfl

/-! ### Dashboards -/

/-- The total for a skill, if the dashboard gives one: the number of its subskills. -/
def DashboardQuery.total (query : DashboardQuery) (skill : Skill) : Option Nat :=
  if query.countUnrated then
    some (query.catalog.subskills.filter (·.skillId == skill.id)).length
  else none

namespace Catalog

variable {engine : Engine} {query : DashboardQuery} {reports : List CategoryStats}
  {report : CategoryStats} {user : ClassifiedUser}

/-- A skill of a user has the tier of its ratings under the total of the dashboard. -/
theorem tier_of_dashboard
    (hreports : query.catalog.dashboard engine query.countUnrated = .ok reports)
    (hreport : report ∈ reports) (huser : user ∈ report.users) {item : UserSkill}
    (hitem : item ∈ user.skills) :
    SkillRatings.tier ⟨item.rated.map (·.rating), query.total item.skill⟩ engine =
      .ok item.tier := by
  obtain ⟨category, -, huser⟩ := isUserOf_of_dashboard hreports hreport huser
  obtain ⟨skill, -, hstanding⟩ := exists_of_mem_forall₂ huser.skills hitem
  obtain rfl := hstanding.isOf
  have htotal : (query.total item.skill).map (fun total => Number.int total) =
      query.catalog.totalFor query.countUnrated item.skill := by
    cases hflag : query.countUnrated <;>
      simp [DashboardQuery.total, totalFor, hflag, index, CatalogIndex.subskillsOf]
  rw [SkillRatings.tier, htotal, List.map_map, hstanding.rated]
  exact hstanding.tier

end Catalog

/-! ### Requests and answers -/

namespace Service

open Job

/-- The paths at which a tier is asked for, and the endpoints that they lead to. -/
def entrances : List (String × Endpoint) := [
  ("/classification/classify", .classifyCounts),
  ("/classification/skills", .classifySkill),
  ("/classification/categories", .classifyCategory),
  ("/classification/dashboard", .dashboard)]

/-- The request posts a body that can be read as JSON to a path. -/
structure Posts (request : Request) (path : String) (body : Json) : Prop where
  method : request.method = "POST"
  path : request.path = path
  body : request.body = some body
  isJson : request.announcesJson = true
  isReadable : hasReadableBody request = true

/-- The service classifies by the engine. -/
structure ClassifiesBy (engine : Engine) (service : Service) : Prop where
  role : service.role = .classification
  engine : service.engine = engine

/-- The decisions on the cache server are correct, and the server fails no call but as one
that is down. -/
structure Remembers (service : Service) : Prop where
  correct : service.cache.server.Correct {service.engine.ruleSet}
  spared : service.cache.IsSpared

/-- The request is answered with a response that tells something. -/
def Responds (service : Service) (request : Request) (told : Nat → Json → Prop) : Prop :=
  ∃ response, ((answer request).run service).1 = .ok response ∧
    told response.status response.body

/-- Whoever posts these counts is answered with the tier. -/
def CountsGive (engine : Engine) (counts : Json) (tier : Tier) : Prop :=
  ∀ service request, ClassifiesBy engine service → Remembers service →
    Posts request "/classification/classify" counts →
    Responds service request fun status body =>
      status = 200 ∧ body.field? "tier" = some (.string tier.name)

/-- Whoever posts rows for a dashboard and is answered with status 200 is shown the reports of
the engine, and this holds of all users in them. -/
def DashboardsShow (engine : Engine) (holds : DashboardQuery → ClassifiedUser → Prop) : Prop :=
  ∀ service request body query, ClassifiesBy engine service →
    Posts request "/classification/dashboard" body →
    DashboardQuery.read .notObjectInBody body = .valid query →
    Responds service request fun status body => status = 200 →
      ∃ reports, query.catalog.dashboard engine query.countUnrated = .ok reports ∧
        body = .array (reports.map CategoryStats.toJson) ∧
        ∀ report ∈ reports, ∀ user ∈ report.users, holds query user

variable {engine : Engine} {service : Service} {request : Request} {path : String} {body : Json}

/-- A request to one of the entrances leads to its endpoint. -/
theorem Posts.leads (hposts : Posts request path body) (hservice : ClassifiesBy engine service)
    {endpoint : Endpoint} (hentrance : (path, endpoint) ∈ entrances) :
    destinationOf service request = .endpoint endpoint "" := by
  have hleads : ∀ entrance ∈ entrances, Route.destination (routes .classification service.config)
      "POST" entrance.1 = .endpoint entrance.2 "" := by
    unfold routes
    cases service.config.isLocal <;> decide +kernel
  unfold destinationOf
  rw [hposts.method, hposts.path, hservice.role]
  exact hleads (path, endpoint) hentrance

/-- The body of a request is read as it is. -/
theorem Posts.readBody {α : Type} {read : ProblemKind → Json → Reading α} {value : α}
    (hposts : Posts request path body) (hread : read .notObjectInBody body = .valid value) :
    readBody read request = .valid value := by
  refine readBody_eq_valid.mpr ⟨hposts.isReadable, ?_⟩
  unfold bodyReading
  rw [hposts.body, hposts.isJson]
  simp only [if_true, hread]
  rfl

/-- Counts that have a tier give it, whether or not the cache knows it. -/
theorem countsGive {whole : WholeCounts} {tier : Tier}
    (htier : engine.classify whole.toCounts = .ok tier) :
    CountsGive engine (countsJson whole.toCounts) tier := by
  intro service request hservice hremembers hposts
  obtain rfl := hservice.engine
  have hleads := hposts.leads hservice List.mem_cons_self
  have hbody := hposts.readBody (whole.read_countsJson _)
  have hhandle := yields_handle "" (.counts hbody) ⟨tier, htier⟩
  obtain ⟨response, hresponse, ⟨hstatus, -⟩, -⟩ :=
    yields_answer hleads hhandle service ⟨rfl, rfl, rfl, hremembers.spared⟩
  have hanswer := course_run weather_refl (answer request) service
  rw [hresponse] at hanswer
  obtain ⟨asked, told, hasks, htold, htells⟩ :=
    tells_of_course hleads hanswer hremembers.correct rfl hstatus
  cases hbody.symm.trans hasks
  cases htier.symm.trans htold
  exact ⟨response, hresponse, hstatus, htells⟩

/-- A request whose handling sends something is answered with it. -/
theorem responds {endpoint : Endpoint} {told : Nat → Json → Prop}
    (hservice : ClassifiesBy engine service) (hposts : Posts request path body)
    (hentrance : (path, endpoint) ∈ entrances)
    (hhandle : Yields (Serves (fun _ => True) service) (Sends told) (handle endpoint "" request)) :
    Responds service request told := by
  obtain ⟨response, hresponse, htold, -⟩ :=
    yields_answer (hposts.leads hservice hentrance) hhandle service ⟨rfl, rfl, rfl, trivial⟩
  exact ⟨response, hresponse, htold⟩

/-- A dashboard is what the engine of the moment makes of the rows. -/
theorem dashboard_course {weather : Service → Service → Prop} {now left : Service}
    {query : DashboardQuery} (hbody : Service.readBody DashboardQuery.read request = .valid query)
    {outcome : Outcome Reply} (hcourse : Course weather (dashboard request) now outcome left) :
    outcome = (query.catalog.dashboard now.engine query.countUnrated).map fun reports =>
      ⟨200, .array (reports.map CategoryStats.toJson)⟩ := by
  unfold dashboard at hcourse
  rw [withBody_of_valid hbody] at hcourse
  have hrest := look_then_course hcourse
  rcases bind_course hrest with ⟨failure, rfl, htiming⟩ | ⟨reports, _, htiming, hdone⟩
  · obtain ⟨_, hinner⟩ := timing_course htiming
    rw [← (done_course hinner).1]
    rfl
  · obtain ⟨_, hinner⟩ := timing_course htiming
    rw [← (done_course hinner).1]
    exact (done_course hdone).1

/-- What holds of the users in the reports of an engine holds of those that are shown. -/
theorem dashboardsShow {holds : DashboardQuery → ClassifiedUser → Prop}
    (hholds : ∀ (query : DashboardQuery) (reports : List CategoryStats),
      query.catalog.dashboard engine query.countUnrated = .ok reports →
        ∀ report ∈ reports, ∀ user ∈ report.users, holds query user) :
    DashboardsShow engine holds := by
  intro service request body query hservice hposts hread
  have hentrance : ("/classification/dashboard", .dashboard) ∈ entrances := by simp [entrances]
  have hdashboard := hposts.leads hservice hentrance
  obtain ⟨response, hresponse, ⟨hnowhere, -, -⟩ |
    ⟨endpoint, ruleId, begun, handled, inner, hleads, hbegun, hhandle, -, hreports⟩⟩ :=
      answer_course (course_run (fun _ => rfl) (answer request) service)
  · exact absurd hdashboard (hnowhere .dashboard "")
  · refine ⟨response, hresponse, fun hstatus => ?_⟩
    cases hdashboard.symm.trans hleads
    obtain rfl := dashboard_course (hposts.readBody hread) hhandle
    rw [hbegun.engine, hservice.engine] at hreports
    cases houtcome : query.catalog.dashboard engine query.countUnrated with
    | error failure =>
        rw [houtcome] at hreports
        have hfailed : response.status = failure.status := hreports
        have hsevere := failure.le_status
        omega
    | ok reports =>
        rw [houtcome] at hreports
        rcases hreports with ⟨-, hbody⟩ | hfailed
        · exact ⟨reports, rfl, hbody, hholds query reports houtcome⟩
        · exact absurd (hstatus.symm.trans hfailed) (by decide)

/-- A skill has one tier at every entrance: with its ratings it is answered with the tier and
with counts that give the same, and dashboards show it of each user who has these ratings,
in whatever order, in a skill with the same total. So it is with a category and the tiers
of its skills. -/
theorem same_tier_at_every_entrance (engine : Engine) :
    (∀ (skill : SkillRatings) (tier : Tier), skill.tier engine = .ok tier →
      ∃ counts,
        (∀ service request body, ClassifiesBy engine service →
          Posts request "/classification/skills" body →
          SkillRatings.read .notObjectInBody body = .valid skill →
          Responds service request (Echoes tier counts)) ∧
        CountsGive engine counts tier ∧
        DashboardsShow engine fun query user => ∀ item ∈ user.skills,
          (item.rated.map (·.rating)).Perm skill.ratings →
            query.total item.skill = skill.total → item.tier = tier) ∧
    ∀ (tiers : List Tier) (tier : Tier), engine.classifyCategory (tiers.map some) = .ok tier →
      ∃ counts,
        (∀ service request body, ClassifiesBy engine service →
          Posts request "/classification/categories" body →
          Tier.readSkillTiers .notObjectInBody body = .valid tiers →
          Responds service request (Echoes tier counts)) ∧
        CountsGive engine counts tier ∧
        DashboardsShow engine fun _ user =>
          (user.skills.map (·.tier)).Perm tiers → user.tier = tier := by
  refine ⟨fun skill tier htier => ?_, fun tiers tier htier => ?_⟩
  · rw [SkillRatings.tier_eq] at htier
    refine ⟨_, ?_, countsGive htier, dashboardsShow ?_⟩
    · intro service request body hservice hposts hread
      obtain rfl := hservice.engine
      have hentrance : ("/classification/skills", .classifySkill) ∈ entrances := by
        simp [entrances]
      exact responds hservice hposts hentrance (yields_classifySkill (hposts.readBody hread) htier)
    · intro query reports hreports report hreport user huser item hitem hratings htotal
      have hitemTier := Catalog.tier_of_dashboard hreports hreport huser hitem
      rw [SkillRatings.tier_eq, SkillRatings.whole_congr hratings htotal, htier] at hitemTier
      exact (Except.ok.inj hitemTier).symm
  · have hwhole : engine.classify (Tier.whole tiers).toCounts = .ok tier := htier
    refine ⟨_, ?_, countsGive hwhole, dashboardsShow ?_⟩
    · intro service request body hservice hposts hread
      obtain rfl := hservice.engine
      have hentrance : ("/classification/categories", .classifyCategory) ∈ entrances := by
        simp [entrances]
      exact responds hservice hposts hentrance
        (yields_classifyCategory (hposts.readBody hread) hwhole)
    · intro query reports hreports report hreport user huser htiers
      obtain ⟨category, -, hof⟩ := Catalog.isUserOf_of_dashboard hreports hreport huser
      have hmap : (user.skills.map (·.tier)).map some =
          user.skills.map fun item => some item.tier := List.map_map
      have huserTier := hof.tier
      rw [← hmap, Engine.classifyCategory, Tier.ofTiers_eq, Tier.whole_congr htiers,
        hwhole] at huserTier
      exact (Except.ok.inj huserTier).symm

/-- A service that takes everyone for an expert. -/
def generous : Service :=
  plainWith .lenient [] []

/-- A request that posts an object. -/
def posting (path : String) (fields : List (String × Json)) : Request where
  method := "POST"
  path := path
  headers := []
  body := some (.object fields)

/-- A request for the tier of a skill with one subskill. -/
def oneSkill : Request :=
  posting "/classification/skills" [("ratings", .array [.string "high"])]

/-- A request for the tier of a category with one skill. -/
def oneCategory : Request :=
  posting "/classification/categories" [("skill_tiers", .array [.string "expert"])]

/-- A request for a dashboard of one user with this skill in this category. -/
def oneUser : Request :=
  posting "/classification/dashboard" [
    ("categories", .array [.object [("id", .string "c"), ("name", .string "Languages")]]),
    ("skills", .array [.object [("id", .string "k"), ("name", .string "French"),
      ("category_id", .string "c")]]),
    ("subskills", .array [.object [("id", .string "r"), ("name", .string "Reading"),
      ("skill_id", .string "k")]]),
    ("ratings", .array [.object [("user_id", .string "u"), ("subskill_id", .string "r"),
      ("rating", .string "high")]]),
    ("profiles", .array [.object [("user_id", .string "u"), ("full_name", .string "Ulla"),
      ("email", .string "u@b.c")]])]

/-- The rows of the request. -/
def oneUserQuery : DashboardQuery where
  catalog := {
    categories := [⟨"c", "Languages", none⟩]
    skills := [⟨"k", "French", "c"⟩]
    subskills := [⟨"r", "Reading", "k"⟩]
    ratings := [⟨"u", some "r", none, .high, "approved"⟩]
    profiles := [⟨"u", "Ulla", "u@b.c"⟩] }
  countUnrated := false

/-- Counts that are echoed can be posted, if those of the answer can. -/
private theorem posts_of_echo {request : Request} {tier : Tier} {counts : Json}
    (hechoed : Responds generous request (Echoes tier counts))
    (hshown : (((answer request).run generous).1.toOption.bind (·.body.field? "input")).all
      (fun counts => hasReadableBody { oneHigh with body := some counts }) = true) :
    Posts { oneHigh with body := some counts } "/classification/classify" counts := by
  obtain ⟨response, hresponse, -, -, hcounts⟩ := hechoed
  rw [hresponse] at hshown
  have hinput : (response.body.field? "input").all
      (fun counts => hasReadableBody { oneHigh with body := some counts }) = true := hshown
  rw [hcounts] at hinput
  exact ⟨rfl, rfl, rfl, rfl, hinput⟩

theorem same_tier_at_every_entrance_generous :
    ∃ skillCounts categoryCounts,
      Responds generous oneSkill (Echoes .expert skillCounts) ∧
      Responds generous { oneHigh with body := some skillCounts }
        (fun status body => status = 200 ∧ body.field? "tier" = some (.string "expert")) ∧
      Responds generous oneCategory (Echoes .expert categoryCounts) ∧
      Responds generous { oneHigh with body := some categoryCounts }
        (fun status body => status = 200 ∧ body.field? "tier" = some (.string "expert")) ∧
      Responds generous oneUser fun status body => status = 200 ∧
        ∃ reports, oneUserQuery.catalog.dashboard generous.engine false = .ok reports ∧
          body = .array (reports.map CategoryStats.toJson) ∧
          ∀ report ∈ reports, ∀ user ∈ report.users, ∀ item ∈ user.skills,
            (item.rated.map (·.rating)).Perm [.high] → item.tier = .expert := by
  have hservice : ClassifiesBy generous.engine generous := ⟨rfl, rfl⟩
  have hremembers : Remembers generous := ⟨fun _ hmem => absurd hmem List.not_mem_nil, .inl rfl⟩
  have hskill : SkillRatings.tier ⟨[.high], none⟩ generous.engine = .ok .expert :=
    ok_of_toOption (by decide +kernel)
  have hcategory : generous.engine.classifyCategory [some .expert] = .ok .expert :=
    ok_of_toOption (by decide +kernel)
  have hstatus : ((answer oneUser).run generous).1.toOption.map (·.status) = some 200 := by
    decide +kernel
  obtain ⟨skillCounts, hskillAnswer, hskillCounts, hshows⟩ :=
    (same_tier_at_every_entrance generous.engine).1 ⟨[.high], none⟩ .expert hskill
  obtain ⟨categoryCounts, hcategoryAnswer, hcategoryCounts, -⟩ :=
    (same_tier_at_every_entrance generous.engine).2 [.expert] .expert hcategory
  have hskillEcho := hskillAnswer generous oneSkill _ hservice ⟨rfl, rfl, rfl, rfl, rfl⟩ rfl
  have hcategoryEcho :=
    hcategoryAnswer generous oneCategory _ hservice ⟨rfl, rfl, rfl, rfl, rfl⟩ rfl
  refine ⟨skillCounts, categoryCounts, hskillEcho,
    hskillCounts generous _ hservice hremembers
      (posts_of_echo hskillEcho (by decide +kernel)),
    hcategoryEcho,
    hcategoryCounts generous _ hservice hremembers
      (posts_of_echo hcategoryEcho (by decide +kernel)), ?_⟩
  obtain ⟨response, hresponse, hshown⟩ :=
    hshows generous oneUser _ oneUserQuery hservice ⟨rfl, rfl, rfl, rfl, by decide +kernel⟩ rfl
  rw [hresponse] at hstatus
  have hstatus : response.status = 200 := Option.some.inj hstatus
  obtain ⟨reports, hreports, hbody, hholds⟩ := hshown hstatus
  exact ⟨response, hresponse, hstatus, reports, hreports, hbody,
    fun report hreport user huser item hitem hratings =>
      hholds report hreport user huser item hitem hratings rfl⟩

end Service

end SkillTiers
