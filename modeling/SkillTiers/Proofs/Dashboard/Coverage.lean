/-
# Coverage

The coverage of a user counts the rated subskills among all subskills of the skills the user
is reported in. The two numbers come from different tables and repeated rows go into both, but
skill by skill the rated ones are some of all of them (`coverage_counts_sound`).

The share of the two is divided before it is multiplied, and so rounded twice, where
`percentage` multiplies first. The two stay next to each other (`coverage_touches_percentage`),
yet a coverage that ought to be a whole number may miss it.
-/

import SkillTiers.Proofs.Dashboard.FirstRatings
import SkillTiers.Proofs.Number.Nearest
import SkillTiers.Proofs.Share

namespace SkillTiers

-- A power is the one of the core library, whatever else is imported.
attribute [local instance (high)] instPowNat

/-- Whether the number is a whole one. -/
def Double.isWhole : Double → Bool
  | .finite _ size => size.units % unitsPerOne == 0
  | _ => false

namespace Catalog

variable {catalog : Catalog} {engine : Engine} {countUnrated : Bool}

/-! ### The counts -/

section Standings

variable {userId : String} {skills : List Skill} {items : List UserSkill}

/-- The subskill is rated: it has an id, and an approved row of the user names it. -/
def HasRating (catalog : Catalog) (userId : String) (subskill : Subskill) : Prop :=
  subskill.id ≠ "" ∧ ∃ row ∈ catalog.ratings, row.userId = userId ∧
    row.status = RatingRow.approved ∧ row.subskillId = some subskill.id

theorem isSome_firstRating_iff {subskill : Subskill} :
    (firstRating catalog.ratings userId subskill.id).isSome ↔
      catalog.HasRating userId subskill := by
  rw [isSome_firstRating, List.any_eq_true]
  constructor
  · rintro ⟨row, hrow, hrates⟩
    simp only [RatingRow.rates, Bool.and_eq_true, beq_iff_eq, bne_iff_ne] at hrates
    exact ⟨hrates.2, row, hrow, hrates.1.1.1, hrates.1.1.2, hrates.1.2⟩
  · rintro ⟨hid, row, hrow, huser, hstatus, hsubskill⟩
    refine ⟨row, hrow, ?_⟩
    simp [RatingRow.rates, huser, hstatus, hsubskill, hid]

/-- As many subskills of a skill are rated as there are if every one of them is rated. -/
theorem length_firstRatings_eq_iff {skill : Skill} :
    (catalog.firstRatings userId skill).length = (catalog.index.subskillsOf skill.id).length ↔
      ∀ subskill ∈ catalog.index.subskillsOf skill.id, catalog.HasRating userId subskill := by
  rw [firstRatings, List.filterMap_length_eq_length]
  simp only [Option.isSome_map, isSome_firstRating_iff]

/-- So it is for the skills of a user together, for each of them has its part in both. -/
theorem ratedTotal_eq_iff
    (hitems : List.Forall₂ (catalog.IsStanding engine countUnrated userId) skills items) :
    CatalogIndex.ratedTotal items = catalog.index.subskillTotal items ↔
      ∀ item ∈ items, ∀ subskill ∈ catalog.index.subskillsOf item.skill.id,
        catalog.HasRating userId subskill := by
  induction hitems with
  | nil => simp [CatalogIndex.ratedTotal, CatalogIndex.subskillTotal]
  | @cons skill item rest items hitem hrest ih =>
      have hfirst := length_firstRatings_le catalog userId skill
      have hothers := ratedTotal_le hrest
      have hall := @length_firstRatings_eq_iff catalog userId skill
      rw [← hitem.rated, ← hitem.isOf] at hfirst hall
      rw [List.forall_mem_cons, ← ih, ← hall]
      simp only [CatalogIndex.ratedTotal, CatalogIndex.subskillTotal, List.map_cons,
        List.sum_cons] at hothers ⊢
      omega

/-- Whoever is rated in one of the skills has a rated subskill there. -/
theorem ratedTotal_pos
    (hitems : List.Forall₂ (catalog.IsStanding engine countUnrated userId)
      (skills.filter (catalog.isRatedIn userId)) items)
    (hrated : skills.any (catalog.isRatedIn userId) = true) :
    0 < CatalogIndex.ratedTotal items := by
  obtain ⟨skill, hskill, hin⟩ := List.any_eq_true.mp hrated
  cases hfiltered : skills.filter (catalog.isRatedIn userId) with
  | nil => exact absurd hin (List.filter_eq_nil_iff.mp hfiltered skill hskill)
  | cons first rest =>
      rw [hfiltered] at hitems
      obtain ⟨item, others, hitem, -, rfl⟩ := List.forall₂_cons_left_iff.mp hitems
      have hfirst : catalog.isRatedIn userId first = true := by
        have hmem : first ∈ skills.filter (catalog.isRatedIn userId) :=
          hfiltered ▸ List.mem_cons_self
        exact (List.mem_filter.mp hmem).2
      have hne : catalog.firstRatings userId first ≠ [] := by
        rw [Ne, firstRatings_eq_nil, hfirst]
        exact Bool.noConfusion
      have hlength := List.length_pos_iff.mpr hne
      rw [← hitem.rated] at hlength
      simp only [CatalogIndex.ratedTotal, List.map_cons, List.sum_cons]
      omega

end Standings

/-- What the coverage of a reported user rests on. The reported skills have a subskill, and
the rated ones are one at least and no more than all; they are all just if each subskill is
rated. The quotient is in range, and the coverage is a hundred at most, and a hundred where
all are rated. -/
structure CoverageSound (catalog : Catalog) (user : ClassifiedUser) : Prop where
  total_pos : 0 < catalog.index.subskillTotal user.skills
  rated_pos : 1 ≤ CatalogIndex.ratedTotal user.skills
  rated_le : CatalogIndex.ratedTotal user.skills ≤ catalog.index.subskillTotal user.skills
  rated_eq_iff : CatalogIndex.ratedTotal user.skills = catalog.index.subskillTotal user.skills ↔
    ∀ item ∈ user.skills, ∀ subskill ∈ catalog.index.subskillsOf item.skill.id,
      catalog.HasRating user.profile.userId subskill
  quotient : ∃ share, (Number.int (CatalogIndex.ratedTotal user.skills)).div
    (.int (catalog.index.subskillTotal user.skills)) = .ok share
  coverage : ∃ coverage : Magnitude, user.coverage = .finite false coverage ∧
    coverage.units ≤ unitsPerOne * 100 ∧
    (CatalogIndex.ratedTotal user.skills = catalog.index.subskillTotal user.skills →
      coverage.units = unitsPerOne * 100)

section Reported

variable {reports : List CategoryStats}
  (hreports : catalog.dashboard engine countUnrated = .ok reports) {report : CategoryStats}
  (hreport : report ∈ reports) {user : ClassifiedUser} (huser : user ∈ report.users)

include hreports hreport huser

/-- Of the subskills of a reported user one at least is rated, and all of them only if each
is. -/
theorem counts_of_dashboard :
    0 < CatalogIndex.ratedTotal user.skills ∧
      CatalogIndex.ratedTotal user.skills ≤ catalog.index.subskillTotal user.skills ∧
      (CatalogIndex.ratedTotal user.skills = catalog.index.subskillTotal user.skills ↔
        ∀ item ∈ user.skills, ∀ subskill ∈ catalog.index.subskillsOf item.skill.id,
          catalog.HasRating user.profile.userId subskill) := by
  obtain ⟨category, hrated, hof⟩ := isUserOf_of_dashboard hreports hreport huser
  exact ⟨ratedTotal_pos hof.skills hrated, ratedTotal_le hof.skills, ratedTotal_eq_iff hof.skills⟩

/-- The coverage of a reported user is the quotient of these counts times a hundred. -/
theorem coverage_of_dashboard :
    ∃ share coverage : Magnitude,
      (Number.int (CatalogIndex.ratedTotal user.skills)).div
        (.int (catalog.index.subskillTotal user.skills)) = .ok (.finite false share) ∧
      share.units = roundUnits (unitsPerOne * CatalogIndex.ratedTotal user.skills)
        (catalog.index.subskillTotal user.skills) ∧
      user.coverage = .finite false coverage ∧
      coverage.units = roundUnits (share.units * 100) 1 ∧
      coverage.units ≤ unitsPerOne * 100 := by
  obtain ⟨hpos, hle, -⟩ := counts_of_dashboard hreports hreport huser
  obtain ⟨category, -, hof⟩ := isUserOf_of_dashboard hreports hreport huser
  obtain ⟨share, coverage, hdiv, hshare, hcoverage, hunits⟩ :=
    coverageOf_eq (Nat.lt_of_lt_of_le hpos hle) hle
  exact ⟨share, coverage, hdiv, hshare, Except.ok.inj (hof.coverage.symm.trans hcoverage), hunits⟩

/-- The counts of each reported user are sound. -/
theorem coverage_counts_sound : catalog.CoverageSound user := by
  obtain ⟨hpos, hle, hall⟩ := counts_of_dashboard hreports hreport huser
  obtain ⟨share, coverage, hdiv, hshare, hcoverage, hunits, hmost⟩ :=
    coverage_of_dashboard hreports hreport huser
  refine ⟨Nat.lt_of_lt_of_le hpos hle, hpos, hle, hall, ⟨_, hdiv⟩, coverage, hcoverage, hmost, ?_⟩
  intro hsame
  rw [hsame] at hshare hpos
  have hone := roundUnits_whole (Nat.zero_le unitPlaces) hpos
    (by decide : 1 * 2 ^ 0 < 2 ^ (53 : Nat))
  have hhundred := roundUnits_whole (Nat.zero_le unitPlaces) Nat.one_pos
    (by decide : 100 * 2 ^ 0 < 2 ^ (53 : Nat))
  rw [Nat.one_mul, Nat.mul_one] at hone
  rw [Nat.mul_one] at hhundred
  rw [hunits, hshare, hone, hhundred]

end Reported

/-- Whether some user of the dashboard passes the test. -/
def reportsUser (catalog : Catalog) (engine : Engine) (countUnrated : Bool)
    (test : ClassifiedUser → Bool) : Bool :=
  (catalog.dashboard engine countUnrated).toOption.any fun reports =>
    reports.any fun report => report.users.any test

theorem exists_of_reportsUser {test : ClassifiedUser → Bool}
    (htest : catalog.reportsUser engine countUnrated test = true) :
    ∃ reports, catalog.dashboard engine countUnrated = .ok reports ∧
      ∃ report ∈ reports, ∃ user ∈ report.users, test user = true := by
  obtain ⟨reports, hreports, htest⟩ := (Option.any_eq_true _ _).mp htest
  obtain ⟨report, hreport, htest⟩ := List.any_eq_true.mp htest
  obtain ⟨user, huser, htest⟩ := List.any_eq_true.mp htest
  exact ⟨reports, ok_of_toOption hreports, report, hreport, user, huser, htest⟩

theorem coverage_counts_sound_toldAgain :
    ∃ reports, toldAgain.dashboard (.empty .nan) false = .ok reports ∧
      ∃ report ∈ reports, ∃ user ∈ report.users,
        CatalogIndex.ratedTotal user.skills = 1 ∧ toldAgain.CoverageSound user := by
  obtain ⟨reports, hreports, report, hreport, user, huser, htest⟩ :=
    @exists_of_reportsUser toldAgain (.empty .nan) false
      (fun user => CatalogIndex.ratedTotal user.skills == 1) (by decide +kernel)
  exact ⟨reports, hreports, report, hreport, user, huser, beq_iff_eq.mp htest,
    coverage_counts_sound hreports hreport huser⟩

/-- A user who is rated on all of two subskills, of which one has the empty id. -/
def withoutId : Catalog where
  categories := [⟨"c", "Languages", none⟩]
  skills := [⟨"k", "French", "c"⟩]
  subskills := [⟨"r", "Reading", "k"⟩, ⟨"", "Writing", "k"⟩]
  ratings := [⟨"u", some "r", none, .high, "approved"⟩, ⟨"u", some "", none, .high, "approved"⟩]
  profiles := [⟨"u", "Ulla", "u@b.c"⟩]

/-- An approved row for each subskill is not enough: none counts for one with the empty id. -/
theorem coverage_short_of_approved :
    ∃ reports, withoutId.dashboard (.empty .nan) false = .ok reports ∧
      ∃ report ∈ reports, ∃ user ∈ report.users,
        (∀ item ∈ user.skills, ∀ subskill ∈ withoutId.index.subskillsOf item.skill.id,
          ∃ row ∈ withoutId.ratings, row.userId = user.profile.userId ∧
            row.status = RatingRow.approved ∧ row.subskillId = some subskill.id) ∧
        CatalogIndex.ratedTotal user.skills ≠ withoutId.index.subskillTotal user.skills := by
  obtain ⟨reports, hreports, report, hreport, user, huser, htest⟩ :=
    @exists_of_reportsUser withoutId (.empty .nan) false (fun user =>
      decide ((∀ item ∈ user.skills, ∀ subskill ∈ withoutId.index.subskillsOf item.skill.id,
        ∃ row ∈ withoutId.ratings, row.userId = user.profile.userId ∧
          row.status = RatingRow.approved ∧ row.subskillId = some subskill.id) ∧
        CatalogIndex.ratedTotal user.skills ≠ withoutId.index.subskillTotal user.skills))
      (by decide +kernel)
  exact ⟨reports, hreports, report, hreport, user, huser, of_decide_eq_true htest⟩

/-! ### The two percentages -/

/-- With the counts that a catalog can have, their quotient has its 53 binary places. -/
theorem two_pow_le_quotient {rated total : Nat} (hrated : 0 < rated) (htotal : 0 < total)
    (hbound : total ≤ 2 ^ (1022 : Nat)) : 2 ^ (52 : Nat) ≤ unitsPerOne * rated / total := by
  have hsplit : 1022 = unitPlaces - 52 := by decide
  rw [hsplit] at hbound
  rw [Nat.le_div_iff_mul_le htotal]
  calc 2 ^ (52 : Nat) * total ≤ 2 ^ (52 : Nat) * unitsAt 52 := Nat.mul_le_mul_left _ hbound
    _ = unitsPerOne := (unitsPerOne_eq (by decide)).symm
    _ ≤ unitsPerOne * rated := Nat.le_mul_of_pos_right _ hrated

section Reported

variable {reports : List CategoryStats}
  (hreports : catalog.dashboard engine countUnrated = .ok reports) {report : CategoryStats}
  (hreport : report ∈ reports) {user : ClassifiedUser} (huser : user ∈ report.users)

include hreports hreport huser

/-- The percentage of the same counts is a whole number where it ought to be. The coverage
is this percentage where the quotient is a magnitude, and otherwise, with the counts that a
catalog can have, this or the next magnitude above or below. -/
theorem coverage_touches_percentage (policy : ZeroTotalPolicy) :
    ∃ coverage share : Magnitude, user.coverage = .finite false coverage ∧
      percentage policy (.int (CatalogIndex.ratedTotal user.skills))
        (.int (catalog.index.subskillTotal user.skills)) = .ok (.finite false share) ∧
      (∀ whole, 100 * CatalogIndex.ratedTotal user.skills =
        whole * catalog.index.subskillTotal user.skills → share.units = unitsPerOne * whole) ∧
      ((∃ quotient : Magnitude, quotient.units * catalog.index.subskillTotal user.skills =
        unitsPerOne * CatalogIndex.ratedTotal user.skills) → coverage = share) ∧
      (catalog.index.subskillTotal user.skills ≤ 2 ^ (1022 : Nat) →
        coverage.Touches share) := by
  obtain ⟨hpos, hle, -⟩ := counts_of_dashboard hreports hreport huser
  obtain ⟨quotient, coverage, -, hquotient, hcoverage, hunits, -⟩ :=
    coverage_of_dashboard hreports hreport huser
  have htotal := Nat.lt_of_lt_of_le hpos hle
  generalize CatalogIndex.ratedTotal user.skills = rated at hpos hle hquotient ⊢
  generalize catalog.index.subskillTotal user.skills = total at hle hquotient htotal ⊢
  have hlimit : 100 < rangeLimit := by decide +kernel
  have hrange : rated * 100 < rangeLimit * total :=
    calc rated * 100 ≤ 100 * total := by omega
      _ < rangeLimit * total := Nat.mul_lt_mul_of_pos_right hlimit htotal
  obtain ⟨share, hpercentage, hshare⟩ := percentage_eq_finite policy htotal hrange
  rw [hquotient] at hunits
  refine ⟨coverage, share, hcoverage, hpercentage, ?whole, ?exact, ?next⟩
  case whole =>
    intro whole hwhole
    have hbound : whole ≤ 100 := by
      apply Nat.le_of_mul_le_mul_right _ htotal
      omega
    rw [hshare, Nat.mul_comm rated, hwhole]
    exact roundUnits_whole (Nat.zero_le unitPlaces) htotal (by omega)
  case exact =>
    rintro ⟨exact, hexact⟩
    apply Magnitude.ext
    rw [hunits, hshare, roundUnits_twice_of_magnitude htotal 100 hexact, Nat.mul_assoc]
  case next =>
    intro hbound
    apply Magnitude.touches_of_twice htotal (by decide : 0 < 100)
      (two_pow_le_quotient hpos htotal hbound) hunits
    rw [hshare, Nat.mul_assoc]

end Reported

/-- One of two subskills is a half, which is a magnitude, and fifty both ways. -/
theorem coverage_touches_percentage_toldAgain :
    ∃ reports, toldAgain.dashboard (.empty .nan) false = .ok reports ∧
      ∃ report ∈ reports, ∃ user ∈ report.users, ∃ share : Magnitude,
        percentage .nan (.int 1) (.int 2) = .ok (.finite false share) ∧
        share.units = unitsPerOne * 50 ∧ user.coverage = .finite false share := by
  obtain ⟨reports, hreports, report, hreport, user, huser, htest⟩ :=
    @exists_of_reportsUser toldAgain (.empty .nan) false
      (fun user => CatalogIndex.ratedTotal user.skills == 1 &&
        toldAgain.index.subskillTotal user.skills == 2) (by decide +kernel)
  simp only [Bool.and_eq_true, beq_iff_eq] at htest
  obtain ⟨coverage, share, hcoverage, hshare, hwhole, hexact, -⟩ :=
    coverage_touches_percentage hreports hreport huser .nan
  rw [htest.1, htest.2] at hshare hwhole hexact
  cases hexact ⟨⟨1 * unitsAt 1, spacing_dvd_unitsAt 1 (by decide), by decide +kernel⟩,
    by decide +kernel⟩
  exact ⟨reports, hreports, report, hreport, user, huser, _, hshare, hwhole 50 rfl, hcoverage⟩

/-- Seven of twenty-five subskills are rated. -/
def sevenRated : Catalog where
  categories := [⟨"c", "Languages", none⟩]
  skills := [⟨"k", "French", "c"⟩]
  subskills := ["a", "b", "c", "d", "e", "f", "g", "h", "i", "j", "k", "l", "m", "n", "o", "p",
    "q", "r", "s", "t", "u", "v", "w", "x", "y"].map fun id => ⟨id, id, "k"⟩
  ratings := ["a", "b", "c", "d", "e", "f", "g"].map fun id =>
    ⟨"u", some id, none, .high, "approved"⟩
  profiles := [⟨"u", "Ulla", "u@b.c"⟩]

/-- That is twenty-eight in a hundred, but the coverage is another number, and not whole. -/
theorem coverage_misses_percentage :
    ∃ reports, sevenRated.dashboard (.empty .nan) false = .ok reports ∧
      ∃ report ∈ reports, ∃ user ∈ report.users,
        100 * CatalogIndex.ratedTotal user.skills =
          28 * sevenRated.index.subskillTotal user.skills ∧
        percentage .nan (.int (CatalogIndex.ratedTotal user.skills))
          (.int (sevenRated.index.subskillTotal user.skills)) ≠ .ok user.coverage ∧
        user.coverage.isWhole = false := by
  obtain ⟨reports, hreports, report, hreport, user, huser, htest⟩ :=
    @exists_of_reportsUser sevenRated (.empty .nan) false (fun user =>
      100 * CatalogIndex.ratedTotal user.skills ==
          28 * sevenRated.index.subskillTotal user.skills &&
        ((percentage .nan (.int (CatalogIndex.ratedTotal user.skills))
          (.int (sevenRated.index.subskillTotal user.skills))).toOption != some user.coverage &&
          !user.coverage.isWhole)) (by decide +kernel)
  simp only [Bool.and_eq_true, beq_iff_eq, bne_iff_ne, Bool.not_eq_true'] at htest
  refine ⟨reports, hreports, report, hreport, user, huser, htest.1, fun hsame => ?_, htest.2.2⟩
  exact htest.2.1 (congrArg Except.toOption hsame)

end Catalog

end SkillTiers
