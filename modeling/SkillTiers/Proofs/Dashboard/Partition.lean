/-
# Every rated user in one place

The dashboard reports on each category, in order. The users under the three tiers of a
report are together the users with a profile who are rated in the category, each of them
once and under the tier that is the user's own (`Catalog.dashboard_partition`). Only a
classification that fails keeps a dashboard from being computed.

A report grows by one user at a time, and `CategoryStats.users_foldl` says what has been
put into it in the end: the order over the tiers is another, but nobody is left out.
-/

import SkillTiers.Proofs.Dashboard.Standing
import Mathlib.Data.List.Forall2

namespace SkillTiers

namespace CategoryStats

/-- The users reported under any tier. -/
def users (stats : CategoryStats) : List ClassifiedUser :=
  stats.expertUsers ++ stats.intermediateUsers ++ stats.beginnerUsers

theorem exists_usersAt {stats : CategoryStats} {user : ClassifiedUser}
    (huser : user ∈ stats.users) : ∃ tier, user ∈ stats.usersAt tier := by
  simp only [users, List.mem_append] at huser
  rcases huser with (hexpert | hintermediate) | hbeginner
  · exact ⟨.expert, hexpert⟩
  · exact ⟨.intermediate, hintermediate⟩
  · exact ⟨.beginner, hbeginner⟩

/-- The report with one more user, if one has been found. -/
def addFound (stats : CategoryStats) (found : Option ClassifiedUser) : CategoryStats :=
  found.elim stats stats.add

/-- One more user stands last under the user's tier. -/
theorem usersAt_add (stats : CategoryStats) (user : ClassifiedUser) (tier : Tier) :
    (stats.add user).usersAt tier =
      stats.usersAt tier ++ [user].filter (·.tier == tier) := by
  cases htier : user.tier <;> cases tier <;> simp [add, usersAt, htier]

/-- One more user is one more of all. -/
theorem users_add (stats : CategoryStats) (user : ClassifiedUser) :
    (stats.add user).users.Perm (stats.users ++ [user]) := by
  have hlast (front back : List ClassifiedUser) :
      (front ++ user :: back).Perm (front ++ (back ++ [user])) :=
    (List.perm_append_singleton user back).symm.append_left front
  cases htier : user.tier with
  | expert =>
      simpa [add, users, htier] using
        hlast stats.expertUsers (stats.intermediateUsers ++ stats.beginnerUsers)
  | intermediate =>
      simpa [add, users, htier] using
        hlast (stats.expertUsers ++ stats.intermediateUsers) stats.beginnerUsers
  | beginner => simp [add, users, htier]

@[simp] theorem category_add (stats : CategoryStats) (user : ClassifiedUser) :
    (stats.add user).category = stats.category := by
  cases htier : user.tier <;> simp [add, htier]

@[simp] theorem skillCount_add (stats : CategoryStats) (user : ClassifiedUser) :
    (stats.add user).skillCount = stats.skillCount := by
  cases htier : user.tier <;> simp [add, htier]

@[simp] theorem usersAt_ofCategory (category : SkillCategory) (skillCount : Nat) (tier : Tier) :
    (ofCategory category skillCount).usersAt tier = [] := by
  cases tier <;> rfl

@[simp] theorem users_ofCategory (category : SkillCategory) (skillCount : Nat) :
    (ofCategory category skillCount).users = [] :=
  rfl

variable (found : List (Option ClassifiedUser)) (stats : CategoryStats)

theorem category_foldl : (found.foldl addFound stats).category = stats.category := by
  induction found generalizing stats with
  | nil => rfl
  | cons first rest ih => cases first <;> simp [ih, addFound]

theorem skillCount_foldl : (found.foldl addFound stats).skillCount = stats.skillCount := by
  induction found generalizing stats with
  | nil => rfl
  | cons first rest ih => cases first <;> simp [ih, addFound]

/-- Under each tier stand the users of it, in order. -/
theorem usersAt_foldl (tier : Tier) : (found.foldl addFound stats).usersAt tier =
    stats.usersAt tier ++ (found.filterMap id).filter (·.tier == tier) := by
  induction found generalizing stats with
  | nil => simp
  | cons first rest ih =>
      cases first with
      | none => simp [ih, addFound]
      | some user =>
          rw [List.foldl_cons, ih, addFound, Option.elim_some, usersAt_add, List.append_assoc,
            ← List.filter_append]
          simp

/-- All that have been found are among the users, and nobody else. -/
theorem users_foldl :
    (found.foldl addFound stats).users.Perm (stats.users ++ found.filterMap id) := by
  induction found generalizing stats with
  | nil => simp
  | cons first rest ih =>
      cases first with
      | none => simpa [addFound] using ih stats
      | some user =>
          refine (ih (stats.add user)).trans ?_
          simpa using (users_add stats user).append_right (rest.filterMap id)

end CategoryStats

/-! ### One category -/

/-- Classifying users one by one and reporting each is classifying all of them first. -/
theorem foldlM_addFound (classify : String → Outcome (Option ClassifiedUser))
    (userIds : List String) (stats : CategoryStats) :
    (userIds.foldlM (fun stats userId => do
        let user? ← classify userId
        return user?.elim stats stats.add) stats : Outcome CategoryStats) =
      (userIds.mapM classify).map fun found => found.foldl CategoryStats.addFound stats := by
  induction userIds generalizing stats with
  | nil => rfl
  | cons userId rest ih =>
      rw [List.foldlM_cons, List.mapM_cons]
      cases classify userId with
      | error failure => rfl
      | ok first =>
          refine (ih (stats.addFound first)).trans ?_
          cases rest.mapM classify <;> rfl

/-- The report on a category is made of what is found of each of its users. -/
theorem CatalogIndex.categoryStats_eq (index : CatalogIndex) (profiles : List UserProfile)
    (engine : Engine) (countUnrated : Bool) (category : SkillCategory) :
    index.categoryStats profiles engine countUnrated category =
      ((index.usersIn category.id).mapM (index.classifiedUser? profiles engine countUnrated
        (index.skillsOf category.id))).map fun found => found.foldl CategoryStats.addFound
          (.ofCategory category (index.skillsOf category.id).length) :=
  foldlM_addFound _ _ _

namespace Catalog

section Reports

variable (catalog : Catalog) (engine : Engine) (countUnrated : Bool)

/-- What is reported on a category: the users with a profile who are rated in it, each of
them once and under the tier that is the user's own. -/
structure IsReportOf (category : SkillCategory) (stats : CategoryStats) : Prop where
  isOf : stats.category = category
  skillCount : stats.skillCount = (catalog.index.skillsOf category.id).length
  users : ∀ tier, ∀ user ∈ stats.usersAt tier,
    user.tier = tier ∧ catalog.IsUserOf engine countUnrated category user
  everyone : ∀ userId, userId ∈ stats.users.map (·.profile.userId) ↔
    (∃ profile ∈ catalog.profiles, profile.userId = userId) ∧
      catalog.isRated userId category = true
  once : (stats.users.map (·.profile.userId)).Nodup

end Reports

variable {catalog : Catalog} {engine : Engine} {countUnrated : Bool} {category : SkillCategory}

/-- The users that have been found are those with a profile, in order. -/
theorem userIds_of_found {userIds : List String} {found : List (Option ClassifiedUser)}
    (hfound : List.Forall₂ (fun userId => catalog.IsFound engine countUnrated userId category)
      userIds found) :
    (found.filterMap id).map (·.profile.userId) =
      userIds.filter fun userId => (UserProfile.of? catalog.profiles userId).isSome := by
  induction hfound with
  | nil => rfl
  | @cons userId first _ _ hfirst _ ih =>
      cases first with
      | none => simpa [show UserProfile.of? catalog.profiles userId = none from hfirst] using ih
      | some user =>
          obtain ⟨rfl, huser⟩ := hfirst
          simpa [huser.profile] using ih

/-- Whoever has been found is to be reported. -/
theorem isUserOf_of_found {userIds : List String} {found : List (Option ClassifiedUser)}
    (hfound : List.Forall₂ (fun userId => catalog.IsFound engine countUnrated userId category)
      userIds found) {user : ClassifiedUser} (hmem : user ∈ found.filterMap id) :
    catalog.IsUserOf engine countUnrated category user := by
  have hsome : some user ∈ found := by simpa using hmem
  obtain ⟨userId, -, -, huser⟩ := exists_of_mem_forall₂ hfound hsome
  exact huser

/-- A report that is made of all users who are rated in a category is a report on it. -/
theorem isReportOf_foldl {found : List (Option ClassifiedUser)}
    (hfound : List.Forall₂ (fun userId => catalog.IsFound engine countUnrated userId category)
      (catalog.index.usersIn category.id) found) :
    catalog.IsReportOf engine countUnrated category (found.foldl CategoryStats.addFound
      (.ofCategory category (catalog.index.skillsOf category.id).length)) := by
  have hperm := (CategoryStats.users_foldl found
    (.ofCategory category (catalog.index.skillsOf category.id).length)).map (·.profile.userId)
  simp only [CategoryStats.users_ofCategory, List.nil_append, userIds_of_found hfound] at hperm
  constructor
  · exact CategoryStats.category_foldl _ _
  · exact CategoryStats.skillCount_foldl _ _
  · intro tier user huser
    rw [CategoryStats.usersAt_foldl, CategoryStats.usersAt_ofCategory, List.nil_append,
      List.mem_filter, beq_iff_eq] at huser
    exact ⟨huser.2, isUserOf_of_found hfound huser.1⟩
  · intro userId
    rw [hperm.mem_iff, List.mem_filter, mem_usersIn, isSome_of?, and_comm]
  · exact hperm.nodup_iff.mpr ((nodup_usersIn _ _).filter _)

/-- A category is reported on, unless a classification for it fails. -/
theorem categoryStats_cases (catalog : Catalog) (engine : Engine) (countUnrated : Bool)
    (category : SkillCategory) :
    (∃ stats, catalog.index.categoryStats catalog.profiles engine countUnrated category =
        .ok stats ∧ catalog.IsReportOf engine countUnrated category stats) ∨
    ∃ failure, catalog.index.categoryStats catalog.profiles engine countUnrated category =
        .error failure ∧ catalog.Raises engine countUnrated category failure := by
  rw [CatalogIndex.categoryStats_eq]
  rcases mapM_cases fun userId hmem => classifiedUser?_cases (mem_usersIn.mp hmem) with
    ⟨found, hfound, heach⟩ | ⟨failure, hfailure, _, _, hraises⟩
  · rw [hfound]
    exact .inl ⟨_, rfl, isReportOf_foldl heach⟩
  · rw [hfailure]
    exact .inr ⟨failure, rfl, hraises⟩

/-- The reports of a dashboard are those on its categories. -/
theorem isReportOf_of_dashboard {reports : List CategoryStats}
    (hreports : catalog.dashboard engine countUnrated = .ok reports) :
    List.Forall₂ (catalog.IsReportOf engine countUnrated) catalog.categories reports := by
  refine (forall₂_of_mapM hreports).imp fun category stats hstats => ?_
  rcases catalog.categoryStats_cases engine countUnrated category with
    ⟨other, hother, hreport⟩ | ⟨failure, hfailure, -⟩
  · cases hother.symm.trans hstats
    exact hreport
  · cases hfailure.symm.trans hstats

/-- Each user of a dashboard is rated in some category, and reported as its user. -/
theorem isUserOf_of_dashboard {reports : List CategoryStats}
    (hreports : catalog.dashboard engine countUnrated = .ok reports) {report : CategoryStats}
    (hreport : report ∈ reports) {user : ClassifiedUser} (huser : user ∈ report.users) :
    ∃ category, catalog.isRated user.profile.userId category = true ∧
      catalog.IsUserOf engine countUnrated category user := by
  obtain ⟨category, -, hof⟩ := exists_of_mem_forall₂ (isReportOf_of_dashboard hreports) hreport
  obtain ⟨tier, htier⟩ := CategoryStats.exists_usersAt huser
  exact ⟨category, ((hof.everyone _).mp (List.mem_map_of_mem huser)).2,
    (hof.users tier user htier).2⟩

/-- A dashboard has one report on each category, in order: in it are the users with a
profile and with a rating that counts of a subskill of some skill of the category, each of
them once, under the tier of the tiers of those skills in which the user is rated. There
is no dashboard only if one of these classifications fails. -/
theorem dashboard_partition (catalog : Catalog) (engine : Engine) (countUnrated : Bool) :
    (∃ reports, catalog.dashboard engine countUnrated = .ok reports ∧
      List.Forall₂ (catalog.IsReportOf engine countUnrated) catalog.categories reports) ∨
    ∃ failure, catalog.dashboard engine countUnrated = .error failure ∧
      ∃ category ∈ catalog.categories, catalog.Raises engine countUnrated category failure := by
  apply mapM_cases
  intro category _
  exact catalog.categoryStats_cases engine countUnrated category

end Catalog

end SkillTiers
