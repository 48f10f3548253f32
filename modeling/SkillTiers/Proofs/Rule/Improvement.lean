/-
# Improved ratings

The seed rules do not only ask for much: experts with few high ratings must not have many
medium ones, and the intermediate tier asks for low ratings and for few high ones. So a better
rating can cost the tier. It does so just where it takes a share across one of these bounds
(`Engine.classify_improved`).

The total stays the same when one rating becomes better, so that it is known which shares grow
and which shrink. The tiers depend on nothing else, and each kind of improvement is settled by
the order of the shares alone.
-/

import SkillTiers.Proofs.Rule.SeedTiers

namespace SkillTiers

namespace Tier

/-- The place of a tier, counted from the lowest one. -/
def rank : Tier → Nat
  | .expert => 2
  | .intermediate => 1
  | .beginner => 0

variable {tier : Tier}

theorem rank_lt_expert : tier.rank < Tier.expert.rank ↔ ¬ tier = .expert := by
  cases tier <;> decide

theorem rank_lt_intermediate :
    tier.rank < Tier.intermediate.rank ↔ ¬ tier = .expert ∧ ¬ tier = .intermediate := by
  cases tier <;> decide

theorem not_rank_lt_beginner : ¬ tier.rank < Tier.beginner.rank :=
  Nat.not_lt_zero _

end Tier

/-! ### Better shares -/

namespace Shares

variable {before after : Shares} {tier tier' : Tier} (htier : before.HaveTier tier)
  (htier' : after.HaveTier tier')

include htier htier'

/-- With more medium and fewer low ratings, experts are lost by the bound on the medium ones
and the intermediate tier by the one on the low ones. -/
theorem rank_lt_of_lowToMedium (hhigh : after.high = before.high)
    (hmedium : before.medium ≤ after.medium) (hupper : before.upper ≤ after.upper) :
    tier'.rank < tier.rank ↔
      tier = .expert ∧ after.high < unitsPerOne * 30 ∧ unitsPerOne * 40 < after.medium ∨
        tier = .intermediate ∧ after.low < unitsPerOne * 30 := by
  cases tier with
  | expert =>
      have hexpert := htier.expert.mp rfl
      simp only [Tier.rank_lt_expert, htier'.expert, reduceCtorEq, true_and, false_and, or_false]
      unfold IsExpert at *
      omega
  | intermediate =>
      obtain ⟨hexpert, hbounds⟩ := htier.intermediate.mp rfl
      simp only [Tier.rank_lt_intermediate, htier'.expert, htier'.intermediate, reduceCtorEq,
        true_and, false_and, false_or]
      rw [isIntermediate_iff] at *
      unfold IsExpert at *
      omega
  | beginner => simp [Tier.not_rank_lt_beginner]

/-- With more high and fewer low ratings, only the intermediate tier is lost: by the bound on
the low ones, or by those on the high and the medium ones. -/
theorem rank_lt_of_lowToHigh (hhigh : before.high ≤ after.high)
    (hmedium : after.medium = before.medium) (hupper : before.upper ≤ after.upper) :
    tier'.rank < tier.rank ↔ tier = .intermediate ∧
      (after.high < unitsPerOne * 20 ∧ after.low < unitsPerOne * 30 ∨
        unitsPerOne * 20 ≤ after.high ∧ after.high < unitsPerOne * 30 ∧
          unitsPerOne * 40 < after.medium) := by
  cases tier with
  | expert =>
      have hexpert := htier.expert.mp rfl
      simp only [Tier.rank_lt_expert, htier'.expert, reduceCtorEq, false_and, iff_false, not_not]
      unfold IsExpert at *
      omega
  | intermediate =>
      obtain ⟨hexpert, hbounds⟩ := htier.intermediate.mp rfl
      simp only [Tier.rank_lt_intermediate, htier'.expert, htier'.intermediate, true_and]
      rw [isIntermediate_iff] at *
      unfold IsExpert at *
      omega
  | beginner => simp [Tier.not_rank_lt_beginner]

/-- With more high and fewer medium ratings, only the intermediate tier is lost: by the bounds
on these two, or by the one on both together. -/
theorem rank_lt_of_mediumToHigh (hhigh : before.high ≤ after.high)
    (hmedium : after.medium ≤ before.medium) (hlow : after.low = before.low) :
    tier'.rank < tier.rank ↔ tier = .intermediate ∧
      (unitsPerOne * 20 ≤ after.high ∧ after.high < unitsPerOne * 30 ∧
          unitsPerOne * 40 < after.medium ∨
        after.high < unitsPerOne * 20 ∧
          (after.medium < unitsPerOne * 40 ∨ after.upper < unitsPerOne * 50)) := by
  cases tier with
  | expert =>
      have hexpert := htier.expert.mp rfl
      simp only [Tier.rank_lt_expert, htier'.expert, reduceCtorEq, false_and, iff_false, not_not]
      unfold IsExpert at *
      omega
  | intermediate =>
      obtain ⟨hexpert, hbounds⟩ := htier.intermediate.mp rfl
      simp only [Tier.rank_lt_intermediate, htier'.expert, htier'.intermediate, true_and]
      rw [isIntermediate_iff] at *
      unfold IsExpert at *
      omega
  | beginner => simp [Tier.not_rank_lt_beginner]

end Shares

/-! ### Better ratings -/

namespace WholeCounts

/-- So many ratings of each kind, and one more. -/
def withOne (high medium low : Nat) : Rating → WholeCounts
  | .high => ⟨high + 1, medium, low, high + medium + low + 1⟩
  | .medium => ⟨high, medium + 1, low, high + medium + low + 1⟩
  | .low => ⟨high, medium, low + 1, high + medium + low + 1⟩

variable {high medium low : Nat} {rating other another : Rating}

theorem allRated_withOne (rating : Rating) : (withOne high medium low rating).AllRated := by
  constructor <;> cases rating <;> simp only [withOne] <;> omega

theorem total_withOne (rating : Rating) :
    (withOne high medium low rating).total = high + medium + low + 1 := by
  cases rating <;> rfl

/-- The share of a rating is the greatest if it is the one more. -/
theorem share_withOne_le :
    (withOne high medium low other).share rating ≤
      (withOne high medium low rating).share rating := by
  have hcount : (withOne high medium low other).countOf rating ≤
      (withOne high medium low rating).countOf rating := by
    cases rating <;> cases other <;> simp [withOne, countOf]
  unfold share
  rw [total_withOne, total_withOne]
  apply roundUnits_mono (Nat.succ_pos _)
  exact Nat.mul_le_mul_left _ (Nat.mul_le_mul_right _ hcount)

/-- It is the same for the two others. -/
theorem share_withOne_eq (hother : other ≠ rating) (hanother : another ≠ rating) :
    (withOne high medium low other).share rating =
      (withOne high medium low another).share rating := by
  have hcount : (withOne high medium low other).countOf rating =
      (withOne high medium low another).countOf rating := by
    cases rating <;> cases other <;> cases another <;> first | rfl | contradiction
  unfold share
  rw [hcount, total_withOne, total_withOne]

/-- The upper shares together are the least if the one more is low. -/
theorem upperShare_withOne_le (rating : Rating) :
    (withOne high medium low .low).upperShare ≤ (withOne high medium low rating).upperShare := by
  have hleast (upper : Rating) (hupper : .low ≠ upper) :
      (withOne high medium low .low).share upper ≤
        (withOne high medium low rating).share upper := by
    by_cases hrating : rating = upper
    · rw [hrating]
      exact share_withOne_le
    · exact Nat.le_of_eq (share_withOne_eq hupper hrating)
  exact roundUnits_mono Nat.one_pos (Nat.add_le_add (hleast .high nofun) (hleast .medium nofun))

/-- The share of the rating is below the percentage. -/
def Below (whole : WholeCounts) (rating : Rating) (percent : Nat) : Prop :=
  whole.share rating < unitsPerOne * percent

/-- The share of the rating is above the percentage. -/
def Above (whole : WholeCounts) (rating : Rating) (percent : Nat) : Prop :=
  unitsPerOne * percent < whole.share rating

end WholeCounts

/-- The engine has these tiers for ratings of which one is low, medium or high, and where this
one becomes better the tier is lower in the following cases and in no others. -/
structure Engine.LosesTier (engine : Engine) (ratings : Rating → WholeCounts)
    (asLow asMedium asHigh : Tier) : Prop where
  low : engine.classify (ratings .low).toCounts = .ok asLow
  medium : engine.classify (ratings .medium).toCounts = .ok asMedium
  high : engine.classify (ratings .high).toCounts = .ok asHigh
  /-- Experts with few high ratings come to too many medium ones, or the intermediate tier comes
  to too few low ones. -/
  lowToMedium : asMedium.rank < asLow.rank ↔
    asLow = .expert ∧ (ratings .medium).Below .high 30 ∧ (ratings .medium).Above .medium 40 ∨
      asLow = .intermediate ∧ (ratings .medium).Below .low 30
  /-- The intermediate tier comes to too few low ratings, or to too many high ones, which are
  not enough for experts as there are too many medium ones. -/
  lowToHigh : asHigh.rank < asLow.rank ↔ asLow = .intermediate ∧
    ((ratings .high).Below .high 20 ∧ (ratings .high).Below .low 30 ∨
      ¬ (ratings .high).Below .high 20 ∧ (ratings .high).Below .high 30 ∧
        (ratings .high).Above .medium 40)
  /-- The intermediate tier comes to the same number of high ratings, or to too few medium ones,
  or to too few of both: these are as many as before, but their shares are rounded. -/
  mediumToHigh : asHigh.rank < asMedium.rank ↔ asMedium = .intermediate ∧
    (¬ (ratings .high).Below .high 20 ∧ (ratings .high).Below .high 30 ∧
        (ratings .high).Above .medium 40 ∨
      (ratings .high).Below .high 20 ∧
        ((ratings .high).Below .medium 40 ∨ (ratings .high).upperShare < unitsPerOne * 50))

/-- Under the seed rules a better rating lowers the tier just where it takes a share across one
of their bounds, whatever the other ratings are. -/
theorem Engine.classify_improved (policy : ZeroTotalPolicy) (first : Nat) :
    ∃ engine, (Engine.empty policy).load (Seed.rules first) = .ok engine ∧
      ∀ high medium low : Nat, ∃ asLow asMedium asHigh : Tier,
        engine.LosesTier (WholeCounts.withOne high medium low) asLow asMedium asHigh := by
  obtain ⟨engine, hload⟩ := Seed.isResult_load policy first
  refine ⟨engine, hload, fun high medium low => ?_⟩
  have hclassify (rating : Rating) :=
    Engine.classify_seed hload (@WholeCounts.allRated_withOne high medium low rating)
  have hmore (rating other : Rating) := @WholeCounts.share_withOne_le high medium low rating other
  have hsame {rating other another : Rating} (hother : other ≠ rating)
      (hanother : another ≠ rating) :=
    @WholeCounts.share_withOne_eq high medium low rating other another hother hanother
  have hupper := @WholeCounts.upperShare_withOne_le high medium low
  obtain ⟨asLow, hlow, hlowTier⟩ := hclassify .low
  obtain ⟨asMedium, hmedium, hmediumTier⟩ := hclassify .medium
  obtain ⟨asHigh, hhigh, hhighTier⟩ := hclassify .high
  refine ⟨asLow, asMedium, asHigh, hlow, hmedium, hhigh, ?_, ?_, ?_⟩
  · exact Shares.rank_lt_of_lowToMedium hlowTier hmediumTier (hsame nofun nofun) (hmore _ _)
      (hupper _)
  · unfold WholeCounts.Below WholeCounts.Above
    rw [Nat.not_lt]
    exact Shares.rank_lt_of_lowToHigh hlowTier hhighTier (hmore _ _) (hsame nofun nofun) (hupper _)
  · unfold WholeCounts.Below WholeCounts.Above
    rw [Nat.not_lt]
    exact Shares.rank_lt_of_mediumToHigh hmediumTier hhighTier (hmore _ _) (hmore _ _)
      (hsame nofun nofun)

/-- Of ten ratings, experts with two high ones are lost by a fifth medium one, and the
intermediate tier by a second high one, be it in place of a low or of a medium one. -/
theorem Engine.classify_lowered :
    ∃ engine, (Engine.empty .nan).load (Seed.rules 1) = .ok engine ∧
      (engine.classify (WholeCounts.mk 2 4 4 10).toCounts = .ok .expert ∧
        engine.classify (WholeCounts.mk 2 5 3 10).toCounts = .ok .beginner) ∧
      (engine.classify (WholeCounts.mk 1 6 3 10).toCounts = .ok .intermediate ∧
        engine.classify (WholeCounts.mk 2 6 2 10).toCounts = .ok .beginner ∧
        engine.classify (WholeCounts.mk 2 5 3 10).toCounts = .ok .beginner) ∧
      Tier.beginner.rank < Tier.intermediate.rank ∧
      Tier.intermediate.rank < Tier.expert.rank := by
  have htiers : ((Engine.empty .nan).load (Seed.rules 1)).toOption.any (fun engine =>
      [(WholeCounts.mk 2 4 4 10, Tier.expert), (⟨2, 5, 3, 10⟩, .beginner),
        (⟨1, 6, 3, 10⟩, .intermediate), (⟨2, 6, 2, 10⟩, .beginner)].all fun (whole, tier) =>
          (engine.classify whole.toCounts).toOption == some tier) = true := by
    decide +kernel
  obtain ⟨engine, hload, htiers⟩ := (Option.any_eq_true _ _).mp htiers
  simp only [List.all_cons, List.all_nil, Bool.and_true, Bool.and_eq_true, beq_iff_eq] at htiers
  obtain ⟨hexpert, hbeginner, hintermediate, hbeginner'⟩ := htiers
  exact ⟨engine, ok_of_toOption hload, ⟨ok_of_toOption hexpert, ok_of_toOption hbeginner⟩,
    ⟨ok_of_toOption hintermediate, ok_of_toOption hbeginner', ok_of_toOption hbeginner⟩,
    by decide, by decide⟩

/-- Half of the ratings are high or medium, but for one in a great many: as medium ratings they
come to fifty percent when they are rounded, and with a high one among them to less. -/
example :
    unitsPerOne * 50 ≤
        (WholeCounts.withOne 0 (125 * 2 ^ 47 - 1) (125 * 2 ^ 47 + 1) .medium).upperShare ∧
      (WholeCounts.withOne 0 (125 * 2 ^ 47 - 1) (125 * 2 ^ 47 + 1) .high).upperShare <
        unitsPerOne * 50 := by
  decide +kernel

end SkillTiers
