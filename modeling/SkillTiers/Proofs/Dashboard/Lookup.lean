/-
# What a report looks up

A report on a category looks up the users of the category, its skills, the subskills of
these and the ratings on them; whatever else the catalog has is not read
(`CatalogsAgree`). Of the engine it asks for classifications of totals that are at least
one: only a skill with a rating is classified, and only a user with such a skill
(`Engine.SameFromOne`). So catalogs and engines that agree in this far give one report
(`Catalog.categoryStats_congr`).
-/

import SkillTiers.Proofs.Dashboard.Partition

namespace SkillTiers

/-! ### Engines -/

namespace Engine

/-- The engines classify alike whatever has a total of one or more. -/
def SameFromOne (engine other : Engine) : Prop :=
  ∀ (counts : Counts) (total : Nat), 0 < total → counts.total = .int total →
    engine.classify counts = other.classify counts

variable {engine other : Engine}

theorem sameFromOne_refl (engine : Engine) : engine.SameFromOne engine := by
  intro counts total _ _
  rfl

/-- A skill with a rating has a total of one at least: that of its ratings or a given one. -/
theorem SameFromOne.classifySkill (hsame : engine.SameFromOne other)
    {ratings : List (Option Rating)} (hratings : ratings ≠ []) {given : Option Number}
    (hgiven : ∀ total ∈ given, ∃ count : Nat, 0 < count ∧ total = .int count) :
    engine.classifySkill ratings given = other.classifySkill ratings given := by
  cases given with
  | none => exact hsame _ ratings.length (List.length_pos_iff.mpr hratings) rfl
  | some total =>
      obtain ⟨count, hcount, rfl⟩ := hgiven total rfl
      exact hsame _ count hcount rfl

theorem SameFromOne.classifyCategory (hsame : engine.SameFromOne other)
    {tiers : List (Option Tier)} (htiers : tiers ≠ []) :
    engine.classifyCategory tiers = other.classifyCategory tiers :=
  hsame _ tiers.length (List.length_pos_iff.mpr htiers) rfl

end Engine

/-! ### Catalogs -/

/-- The catalogs have the same subskills of a skill, with the same first ratings. -/
structure CatalogsAgree (catalog other : Catalog) (skill : Skill) : Prop where
  subskills : catalog.index.subskillsOf skill.id = other.index.subskillsOf skill.id
  ratings : ∀ subskill ∈ catalog.index.subskillsOf skill.id, ∀ userId,
    firstRating catalog.ratings userId subskill.id =
      firstRating other.ratings userId subskill.id

theorem catalogsAgree_refl (catalog : Catalog) (skill : Skill) :
    CatalogsAgree catalog catalog skill :=
  ⟨rfl, fun _ _ _ => rfl⟩

namespace Catalog

section Skill

variable {catalog other : Catalog} {skill : Skill}

theorem firstRatings_congr (hagree : CatalogsAgree catalog other skill) (userId : String) :
    catalog.firstRatings userId skill = other.firstRatings userId skill := by
  unfold firstRatings
  rw [← hagree.subskills]
  apply List.filterMap_congr
  intro subskill hsubskill
  rw [hagree.ratings subskill hsubskill]

theorem isRatedIn_congr (hagree : CatalogsAgree catalog other skill) (userId : String) :
    catalog.isRatedIn userId skill = other.isRatedIn userId skill := by
  rw [← Bool.not_inj_iff, Bool.eq_iff_iff]
  simp only [Bool.not_eq_true', ← firstRatings_eq_nil, firstRatings_congr hagree]

/-- Whoever is rated in a skill has a subskill of it. -/
theorem subskillsOf_pos_of_isRatedIn {userId : String}
    (hrated : catalog.isRatedIn userId skill = true) :
    0 < (catalog.index.subskillsOf skill.id).length := by
  obtain ⟨subskill, hsubskill, -⟩ := List.any_eq_true.mp hrated
  exact List.length_pos_of_mem hsubskill

variable {engine engine' : Engine}

/-- A skill in which the user is rated is classified alike. -/
theorem skillTier_congr (hagree : CatalogsAgree catalog other skill)
    (hsame : engine.SameFromOne engine') (countUnrated : Bool) {userId : String}
    (hrated : catalog.isRatedIn userId skill = true) :
    catalog.skillTier engine countUnrated userId skill =
      other.skillTier engine' countUnrated userId skill := by
  have hratings : (catalog.firstRatings userId skill).map (fun item => some item.rating) ≠ [] := by
    rw [Ne, List.map_eq_nil_iff, firstRatings_eq_nil, hrated]
    simp
  have htotal : other.totalFor countUnrated skill = catalog.totalFor countUnrated skill := by
    rw [totalFor, totalFor, hagree.subskills]
  rw [skillTier, skillTier, htotal, ← firstRatings_congr hagree]
  apply hsame.classifySkill hratings
  intro total hgiven
  cases countUnrated with
  | false => simp [totalFor] at hgiven
  | true =>
      refine ⟨_, subskillsOf_pos_of_isRatedIn hrated, ?_⟩
      simpa [totalFor, eq_comm] using hgiven

/-- The standing of a user in a skill is the same. -/
theorem userSkill?_congr (hagree : CatalogsAgree catalog other skill)
    (hsame : engine.SameFromOne engine') (countUnrated : Bool) (userId : String) :
    catalog.index.userSkill? engine countUnrated userId skill =
      other.index.userSkill? engine' countUnrated userId skill := by
  rw [userSkill?_eq, userSkill?_eq, ← isRatedIn_congr hagree, ← firstRatings_congr hagree]
  cases hrated : catalog.isRatedIn userId skill with
  | false => simp
  | true => rw [skillTier_congr hagree hsame countUnrated hrated]

end Skill

section Skills

variable {catalog other : Catalog} {skills : List Skill} {engine engine' : Engine}

theorem userSkills_congr (hagree : ∀ skill ∈ skills, CatalogsAgree catalog other skill)
    (hsame : engine.SameFromOne engine') (countUnrated : Bool) (userId : String) :
    catalog.index.userSkills engine countUnrated userId skills =
      other.index.userSkills engine' countUnrated userId skills := by
  induction skills with
  | nil => rfl
  | cons skill rest ih =>
      obtain ⟨hskill, hrest⟩ := List.forall_mem_cons.mp hagree
      rw [CatalogIndex.userSkills, CatalogIndex.userSkills,
        userSkill?_congr hskill hsame, ih hrest]

/-- The skills of a user are among those that have been asked for. -/
theorem skill_mem_of_userSkills {countUnrated : Bool} {userId : String} {items : List UserSkill}
    (hitems : catalog.index.userSkills engine countUnrated userId skills = .ok items) :
    ∀ item ∈ items, item.skill ∈ skills := by
  rcases catalog.userSkills_cases engine countUnrated userId skills with
    ⟨others, hothers, hstandings⟩ | ⟨failure, hfailure, -⟩
  · obtain rfl : others = items := Except.ok.inj (hothers.symm.trans hitems)
    intro item hitem
    obtain ⟨skill, hskill, hstanding⟩ := exists_of_mem_forall₂ hstandings hitem
    exact hstanding.isOf ▸ List.mem_of_mem_filter hskill
  · exact absurd (hfailure.symm.trans hitems) (by simp)

theorem subskillTotal_congr (hagree : ∀ skill ∈ skills, CatalogsAgree catalog other skill)
    {items : List UserSkill} (hitems : ∀ item ∈ items, item.skill ∈ skills) :
    catalog.index.subskillTotal items = other.index.subskillTotal items := by
  unfold CatalogIndex.subskillTotal
  congr 1
  apply List.map_congr_left
  intro item hitem
  rw [(hagree _ (hitems item hitem)).subskills]

/-- What is found of a user in these skills is the same. -/
theorem classifiedUser?_congr (hagree : ∀ skill ∈ skills, CatalogsAgree catalog other skill)
    (hsame : engine.SameFromOne engine') (profiles : List UserProfile) (countUnrated : Bool)
    (userId : String) :
    catalog.index.classifiedUser? profiles engine countUnrated skills userId =
      other.index.classifiedUser? profiles engine' countUnrated skills userId := by
  have hskills := userSkills_congr hagree hsame countUnrated userId
  cases hprofile : UserProfile.of? profiles userId with
  | none => simp [CatalogIndex.classifiedUser?, hprofile]
  | some profile =>
      cases hitems : catalog.index.userSkills engine countUnrated userId skills with
      | error failure =>
          rw [classifiedUser?_of_error hprofile hitems,
            classifiedUser?_of_error hprofile (hskills ▸ hitems)]
      | ok items =>
          have hothers := hskills ▸ hitems
          cases items with
          | nil => simp [CatalogIndex.classifiedUser?, hprofile, hitems, hothers, bind, Except.bind]
          | cons item rest =>
              have hne : item :: rest ≠ [] := List.cons_ne_nil item rest
              rw [classifiedUser?_of_ok hprofile hne hitems,
                classifiedUser?_of_ok hprofile hne hothers,
                hsame.classifyCategory (by simp),
                subskillTotal_congr hagree (skill_mem_of_userSkills hitems)]

/-- Catalogs with the same users and skills of a category have the same report on it. -/
theorem categoryStats_congr {category : SkillCategory}
    (hagree : ∀ skill ∈ catalog.index.skillsOf category.id, CatalogsAgree catalog other skill)
    (hskills : catalog.index.skillsOf category.id = other.index.skillsOf category.id)
    (husers : catalog.index.usersIn category.id = other.index.usersIn category.id)
    (hsame : engine.SameFromOne engine') (profiles : List UserProfile) (countUnrated : Bool) :
    catalog.index.categoryStats profiles engine countUnrated category =
      other.index.categoryStats profiles engine' countUnrated category := by
  rw [CatalogIndex.categoryStats_eq, CatalogIndex.categoryStats_eq, ← hskills, ← husers,
    funext (classifiedUser?_congr hagree hsame profiles countUnrated)]

end Skills

end Catalog

end SkillTiers
