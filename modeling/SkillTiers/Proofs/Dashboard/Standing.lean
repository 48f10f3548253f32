/-
# Users and their skills

A user stands in a skill with the ratings in force on its subskills, and in a category
with the skills in which there is one. `IsStanding` and `IsUserOf` say what is reported of
a user in terms of the rows alone. Working it out comes to that, or fails as one of the
classifications does (`classifiedUser?_cases`); the coverage is always there.
-/

import SkillTiers.Dashboard.Report
import SkillTiers.Proofs.Condition.Totality
import SkillTiers.Proofs.Dashboard.Index
import SkillTiers.Proofs.Number.Natural

namespace SkillTiers

namespace Catalog

/-! ### What the rows say -/

section Rows

variable (catalog : Catalog)

/-- Whether the user is rated on some subskill of the skill. -/
def isRatedIn (userId : String) (skill : Skill) : Bool :=
  (catalog.index.subskillsOf skill.id).any fun subskill =>
    catalog.ratings.any (·.rates userId subskill.id)

/-- Whether the user is rated in some skill of the category. -/
def isRated (userId : String) (category : SkillCategory) : Bool :=
  (catalog.index.skillsOf category.id).any (catalog.isRatedIn userId)

/-- The subskills of a skill on which the user is rated, with the first rating that
counts. -/
def firstRatings (userId : String) (skill : Skill) : List RatedSubskill :=
  (catalog.index.subskillsOf skill.id).filterMap fun subskill =>
    (firstRating catalog.ratings userId subskill.id).map fun rating => ⟨subskill, rating⟩

/-- The total for a skill: all of its subskills under the flag. -/
def totalFor (countUnrated : Bool) (skill : Skill) : Option Number :=
  if countUnrated then some (.int (catalog.index.subskillsOf skill.id).length) else none

/-- How a skill is classified for a user. -/
def skillTier (engine : Engine) (countUnrated : Bool) (userId : String) (skill : Skill) :
    Outcome Tier :=
  engine.classifySkill ((catalog.firstRatings userId skill).map fun item => some item.rating)
    (catalog.totalFor countUnrated skill)

/-- The standing of a user in a skill. -/
structure IsStanding (engine : Engine) (countUnrated : Bool) (userId : String) (skill : Skill)
    (item : UserSkill) : Prop where
  isOf : item.skill = skill
  rated : item.rated = catalog.firstRatings userId skill
  tier : catalog.skillTier engine countUnrated userId skill = .ok item.tier

/-- The standings of a user in a category: one for each of its skills in which the user is
rated, in order. -/
def AreStandings (engine : Engine) (countUnrated : Bool) (userId : String)
    (category : SkillCategory) (items : List UserSkill) : Prop :=
  List.Forall₂ (catalog.IsStanding engine countUnrated userId)
    ((catalog.index.skillsOf category.id).filter (catalog.isRatedIn userId)) items

/-- What is reported of a user in a category. -/
structure IsUserOf (engine : Engine) (countUnrated : Bool) (category : SkillCategory)
    (user : ClassifiedUser) : Prop where
  profile : UserProfile.of? catalog.profiles user.profile.userId = some user.profile
  skills : catalog.AreStandings engine countUnrated user.profile.userId category user.skills
  tier : engine.classifyCategory (user.skills.map fun item => some item.tier) = .ok user.tier
  coverage : CatalogIndex.coverageOf (CatalogIndex.ratedTotal user.skills)
    (catalog.index.subskillTotal user.skills) = .ok user.coverage

/-- A classification for the category fails: that of a skill in which a user with a profile
is rated, or that of the tiers of the skills of such a user. -/
inductive Raises (engine : Engine) (countUnrated : Bool) (category : SkillCategory)
    (failure : Failure) : Prop where
  | skill {userId : String} {skill : Skill}
      (hprofile : (UserProfile.of? catalog.profiles userId).isSome)
      (hskill : skill ∈ catalog.index.skillsOf category.id)
      (hrated : catalog.isRatedIn userId skill = true)
      (hraises : catalog.skillTier engine countUnrated userId skill = .error failure)
  | category {userId : String} {items : List UserSkill}
      (hprofile : (UserProfile.of? catalog.profiles userId).isSome)
      (hitems : catalog.AreStandings engine countUnrated userId category items)
      (hrated : items ≠ [])
      (hraises : engine.classifyCategory (items.map fun item => some item.tier) =
        .error failure)

end Rows

/-! ### Users of a category -/

section Users

variable {catalog : Catalog} {userId : String} {skill : Skill} {category : SkillCategory}

theorem any_rates_eq (subskillId : String) :
    catalog.ratings.any (·.rates userId subskillId) =
      (firstRating catalog.ratings userId subskillId).isSome :=
  isSome_firstRating.symm

/-- Nobody is rated in a skill without a rating in force. -/
theorem firstRatings_eq_nil : catalog.firstRatings userId skill = [] ↔
    catalog.isRatedIn userId skill = false := by
  simp [firstRatings, isRatedIn, any_rates_eq]

/-- The ratings in the index are the first that count. -/
theorem ratedSubskills_index :
    catalog.index.ratedSubskills userId skill = catalog.firstRatings userId skill := by
  simp [CatalogIndex.ratedSubskills, firstRatings, index, RatingIndex.rating?_ofRows]

/-- The users of a category are those who are rated in it. -/
theorem mem_usersIn : userId ∈ catalog.index.usersIn category.id ↔
    catalog.isRated userId category = true := by
  simp [CatalogIndex.usersIn, isRated, isRatedIn, index, RatingIndex.mem_usersOf_ofRows,
    isSome_firstRating]

theorem nodup_usersIn (index : CatalogIndex) (categoryId : String) :
    (index.usersIn categoryId).Nodup :=
  nodup_distinct _

theorem of?_userId {profiles : List UserProfile} {profile : UserProfile}
    (hprofile : UserProfile.of? profiles userId = some profile) : profile.userId = userId := by
  simpa using List.find?_some hprofile

theorem isSome_of? {profiles : List UserProfile} :
    (UserProfile.of? profiles userId).isSome ↔ ∃ profile ∈ profiles, profile.userId = userId := by
  simp [UserProfile.of?]

end Users

/-! ### Coverage -/

section Coverage

variable {catalog : Catalog} {engine : Engine} {countUnrated : Bool} {userId : String}
  {category : SkillCategory}

theorem length_firstRatings_le (catalog : Catalog) (userId : String) (skill : Skill) :
    (catalog.firstRatings userId skill).length ≤
      (catalog.index.subskillsOf skill.id).length :=
  List.length_filterMap_le _ _

/-- Of the subskills of the skills of a user no more are rated than there are. -/
theorem ratedTotal_le {skills : List Skill} {items : List UserSkill}
    (hitems : List.Forall₂ (catalog.IsStanding engine countUnrated userId) skills items) :
    CatalogIndex.ratedTotal items ≤ catalog.index.subskillTotal items := by
  induction hitems with
  | nil => exact Nat.le_refl _
  | @cons skill item _ _ hitem _ ih =>
      have hlength := length_firstRatings_le catalog userId skill
      simp only [CatalogIndex.ratedTotal, CatalogIndex.subskillTotal, List.map_cons,
        List.sum_cons, hitem.isOf, hitem.rated] at ih ⊢
      exact Nat.add_le_add hlength ih

/-- The coverage is the rounded quotient times a hundred, rounded again. -/
theorem coverageOf_eq {rated total : Nat} (htotal : 0 < total) (hrated : rated ≤ total) :
    ∃ share coverage : Magnitude,
      (Number.int rated).div (.int total) = .ok (.finite false share) ∧
      share.units = roundUnits (unitsPerOne * rated) total ∧
      CatalogIndex.coverageOf rated total = .ok (.finite false coverage) ∧
      coverage.units = roundUnits (share.units * 100) 1 ∧
      coverage.units ≤ unitsPerOne * 100 := by
  obtain ⟨one, -, hone⟩ := @Number.toDouble_nat_small 1 (by decide)
  obtain ⟨hundred, hhundred, hunits⟩ :
      ∃ size : Magnitude, (Number.int 100).toDouble = .ok (.finite false size) ∧
        size.units = unitsPerOne * 100 := @Number.toDouble_nat_small 100 (by decide)
  rw [Nat.mul_one] at hone
  have hpart : unitsPerOne * rated ≤ one.units * total := by
    rw [hone]
    exact Nat.mul_le_mul_left _ hrated
  obtain ⟨share, hround, hshare, hunit⟩ := Magnitude.round?_of_le htotal one hpart
  have hpercent : share.units * 100 ≤ hundred.units * 1 := by
    rw [Nat.mul_one, hunits, ← hone]
    exact Nat.mul_le_mul_right 100 hunit
  obtain ⟨coverage, hround', hcoverage, hall⟩ :=
    Magnitude.round?_of_le Nat.one_pos hundred hpercent
  rw [hunits] at hall
  have hdiv : (Number.int rated).div (.int total) = .ok (.finite false share) := by
    unfold Number.div
    dsimp only
    rw [Double.ofIntQuotient?_nat, hround]
    rfl
  refine ⟨share, coverage, hdiv, hshare, ?_, hcoverage, hall⟩
  rw [CatalogIndex.coverageOf, if_pos htotal, hdiv]
  simp only [bind, Except.bind]
  rw [hhundred]
  dsimp only [pure, Except.pure]
  rw [Double.mul_natural hunits hround']
  rfl

/-- The share of a part in a whole is in range. -/
theorem isResult_coverageOf {rated total : Nat} (hrated : rated ≤ total) :
    IsResult (CatalogIndex.coverageOf rated total) := by
  rcases Nat.eq_zero_or_pos total with rfl | htotal
  · exact ⟨.zero, rfl⟩
  · obtain ⟨_, _, -, -, hcoverage, -⟩ := coverageOf_eq htotal hrated
    exact ⟨_, hcoverage⟩

end Coverage

/-! ### Working it out -/

section Classifying

variable (catalog : Catalog) (engine : Engine) (countUnrated : Bool) (userId : String)

/-- A skill without a rating is passed over, and any other is classified. -/
theorem userSkill?_eq (skill : Skill) :
    catalog.index.userSkill? engine countUnrated userId skill =
      if catalog.isRatedIn userId skill then do
        return some ⟨skill, ← catalog.skillTier engine countUnrated userId skill,
          catalog.firstRatings userId skill⟩
      else .ok none := by
  have hnone := @firstRatings_eq_nil catalog userId skill
  unfold CatalogIndex.userSkill? skillTier
  rw [ratedSubskills_index]
  cases hrated : catalog.firstRatings userId skill with
  | nil =>
      rw [hnone.mp hrated]
      rfl
  | cons first rest =>
      have hsome : catalog.isRatedIn userId skill = true := by simpa [hrated] using hnone
      rw [hsome]
      rfl

/-- In the skills of a list a user has a standing wherever there is a rating, unless the
classification fails in one of these. -/
theorem userSkills_cases (skills : List Skill) :
    (∃ items, catalog.index.userSkills engine countUnrated userId skills = .ok items ∧
      List.Forall₂ (catalog.IsStanding engine countUnrated userId)
        (skills.filter (catalog.isRatedIn userId)) items) ∨
    ∃ failure, catalog.index.userSkills engine countUnrated userId skills = .error failure ∧
      ∃ skill ∈ skills, catalog.isRatedIn userId skill = true ∧
        catalog.skillTier engine countUnrated userId skill = .error failure := by
  induction skills with
  | nil => exact .inl ⟨[], rfl, .nil⟩
  | cons skill rest ih =>
      rw [CatalogIndex.userSkills, userSkill?_eq]
      cases hrated : catalog.isRatedIn userId skill with
      | false =>
          rcases ih with ⟨items, hitems, hstandings⟩ | ⟨failure, hfailure, other, hmem, hraises⟩
          · rw [hitems]
            exact .inl ⟨items, rfl, by simpa [hrated] using hstandings⟩
          · rw [hfailure]
            exact .inr ⟨failure, rfl, other, List.mem_cons_of_mem _ hmem, hraises⟩
      | true =>
          cases htier : catalog.skillTier engine countUnrated userId skill with
          | error failure => exact .inr ⟨failure, rfl, skill, List.mem_cons_self, hrated, htier⟩
          | ok tier =>
              rcases ih with ⟨items, hitems, hstandings⟩ |
                ⟨failure, hfailure, other, hmem, hraises⟩
              · rw [hitems]
                refine .inl ⟨_, rfl, ?_⟩
                rw [List.filter_cons_of_pos hrated]
                exact .cons ⟨rfl, rfl, htier⟩ hstandings
              · rw [hfailure]
                exact .inr ⟨failure, rfl, other, List.mem_cons_of_mem _ hmem, hraises⟩

/-- What is found of a user who is rated in a category: nothing without a profile, and else
what is to be reported. -/
def IsFound (category : SkillCategory) : Option ClassifiedUser → Prop
  | none => UserProfile.of? catalog.profiles userId = none
  | some user => user.profile.userId = userId ∧
      catalog.IsUserOf engine countUnrated category user

end Classifying

section Found

variable {catalog : Catalog} {engine : Engine} {countUnrated : Bool} {userId : String}
  {index : CatalogIndex} {profiles : List UserProfile} {profile : UserProfile}
  {skills : List Skill}

theorem classifiedUser?_of_error (hprofile : UserProfile.of? profiles userId = some profile)
    {failure : Failure}
    (hskills : index.userSkills engine countUnrated userId skills = .error failure) :
    index.classifiedUser? profiles engine countUnrated skills userId = .error failure := by
  simp [CatalogIndex.classifiedUser?, hprofile, hskills, bind, Except.bind]

/-- What is made of skills of which there is one at least. The two ways to work it out are
arguments here, so that nothing is worked out in checking this. -/
private theorem user_of_cons (classify : List (Option Tier) → Outcome Tier)
    (cover : Nat → Nat → Outcome Double) (rated total : List UserSkill → Nat)
    (profile : UserProfile) (item : UserSkill) (rest : List UserSkill) :
    (do
      match ← (.ok (item :: rest) : Outcome (List UserSkill)) with
      | [] => return none
      | items => do
        let tier ← classify (items.map fun item => some item.tier)
        let coverage ← cover (rated items) (total items)
        return some ⟨profile, tier, coverage, items⟩ : Outcome (Option ClassifiedUser)) =
      (do
        let tier ← classify ((item :: rest).map fun item => some item.tier)
        let coverage ← cover (rated (item :: rest)) (total (item :: rest))
        return some ⟨profile, tier, coverage, item :: rest⟩) :=
  rfl

/-- A user with a profile and with skills is classified by their tiers. -/
theorem classifiedUser?_of_ok (hprofile : UserProfile.of? profiles userId = some profile)
    {items : List UserSkill} (hne : items ≠ [])
    (hskills : index.userSkills engine countUnrated userId skills = .ok items) :
    index.classifiedUser? profiles engine countUnrated skills userId = (do
      let tier ← engine.classifyCategory (items.map fun item => some item.tier)
      let coverage ← CatalogIndex.coverageOf (CatalogIndex.ratedTotal items)
        (index.subskillTotal items)
      return some ⟨profile, tier, coverage, items⟩) := by
  obtain ⟨item, rest, rfl⟩ := List.exists_cons_of_ne_nil hne
  unfold CatalogIndex.classifiedUser?
  rw [hprofile]
  dsimp only
  rw [hskills]
  exact user_of_cons engine.classifyCategory CatalogIndex.coverageOf CatalogIndex.ratedTotal
    index.subskillTotal profile item rest

/-- A user who is rated in a category is found, unless a classification fails. -/
theorem classifiedUser?_cases {category : SkillCategory}
    (hrated : catalog.isRated userId category = true) :
    (∃ found, catalog.index.classifiedUser? catalog.profiles engine countUnrated
        (catalog.index.skillsOf category.id) userId = .ok found ∧
      catalog.IsFound engine countUnrated userId category found) ∨
    ∃ failure, catalog.index.classifiedUser? catalog.profiles engine countUnrated
        (catalog.index.skillsOf category.id) userId = .error failure ∧
      catalog.Raises engine countUnrated category failure := by
  cases hprofile : UserProfile.of? catalog.profiles userId with
  | none => exact .inl ⟨none, by simp [CatalogIndex.classifiedUser?, hprofile], hprofile⟩
  | some profile =>
      have hsome : (UserProfile.of? catalog.profiles userId).isSome := by simp [hprofile]
      rcases catalog.userSkills_cases engine countUnrated userId
        (catalog.index.skillsOf category.id) with
        ⟨items, hitems, hstandings⟩ | ⟨failure, hfailure, skill, hmem, hrates, hraises⟩
      · -- The filter keeps a skill, so there is a standing.
        have hne : items ≠ [] := by
          rintro rfl
          have hempty := List.forall₂_nil_right_iff.mp hstandings
          obtain ⟨skill, hmem, hrates⟩ := List.any_eq_true.mp hrated
          exact absurd hrates (List.filter_eq_nil_iff.mp hempty skill hmem)
        rw [classifiedUser?_of_ok hprofile hne hitems]
        cases htier : engine.classifyCategory (items.map fun item => some item.tier) with
        | error failure => exact .inr ⟨failure, rfl, .category hsome hstandings hne htier⟩
        | ok tier =>
            obtain ⟨coverage, hcoverage⟩ := isResult_coverageOf (ratedTotal_le hstandings)
            rw [hcoverage]
            obtain rfl := of?_userId hprofile
            exact .inl ⟨some ⟨profile, tier, coverage, items⟩, rfl, rfl, hprofile, hstandings,
              htier, hcoverage⟩
      · exact .inr ⟨failure, classifiedUser?_of_error hprofile hfailure,
          .skill hsome hmem hrates hraises⟩

end Found

end Catalog

end SkillTiers
