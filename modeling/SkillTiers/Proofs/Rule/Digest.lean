/-
# Rule sets told apart by their versions

A version is a digest of a canonical text. It stands for what a rule set decides as
long as the digests of different texts differ, which cannot be proved of a digest
that is shorter than the texts: `RuleSet.DigestsDiffer` says it of the rule sets
that are at hand. The version of a rule set without rules is no digest at all.
-/

import SkillTiers.Proofs.Rule.Writable
import Mathlib.Data.Set.Basic

namespace SkillTiers

/-- No hexadecimal digit is an `m`. -/
theorem m_notMem_hexChars (places value : Nat) : 'm' ∉ hexChars places value := by
  have hdigit : ∀ digit < 16, Nat.digitChar digit ≠ 'm' := by decide
  induction places generalizing value with
  | zero => exact List.not_mem_nil
  | succ places ih =>
      intro hmem
      rcases List.mem_append.mp hmem with hfront | hlast
      · exact ih _ hfront
      · exact hdigit _ (Nat.mod_lt _ (by decide)) (List.mem_singleton.mp hlast).symm

namespace Rule

/-- No digest is the version of an empty rule set. -/
theorem digest_ne_emptyVersion (text : List Char) : digest text ≠ emptyVersion := by
  intro h
  have hchars : (Sha256.hexDigest (text.map fun c => UInt8.ofNat c.toNat)).take 16 =
      emptyVersion.toList := by
    rw [← h, digest, String.toList_ofList]
  have hmem : 'm' ∈ Sha256.hexDigest (text.map fun c => UInt8.ofNat c.toNat) := by
    apply List.mem_of_mem_take
    rw [hchars]
    decide
  obtain ⟨word, -, hword⟩ := List.mem_flatMap.mp hmem
  exact m_notMem_hexChars _ _ hword

end Rule

namespace RuleSet

/-- The rules that count, each with its tier. -/
def counting (set : RuleSet) : List (Tier × Rule) :=
  set.chosen.map fun chosen => (chosen.tier, chosen.rule)

/-- The canonical text of the rules that count. -/
def text (set : RuleSet) : List Char :=
  Rule.canonicalText set.counting

/-- The rule set is compiled from rules. -/
def IsBuilt (set : RuleSet) : Prop :=
  ∃ rules, build rules = .ok set

/-- The digest tells the canonical texts of rule sets apart; rule sets in which no
rule counts have no text that is digested. -/
def DigestsDiffer (sets : Set RuleSet) : Prop :=
  ∀ first ∈ sets, ∀ second ∈ sets, first.counting ≠ [] → second.counting ≠ [] →
    Rule.digest first.text = Rule.digest second.text → first.text = second.text

/-- Rule sets are told apart if they have two texts at most and the digests of these differ. -/
theorem digestsDiffer_of_two {sets : Set RuleSet} (first second : List Char)
    (htexts : ∀ set ∈ sets, set.counting ≠ [] → set.text = first ∨ set.text = second)
    (hdigests : Rule.digest first ≠ Rule.digest second) : DigestsDiffer sets := by
  intro one hone other hother hrules hrules' hsame
  rcases htexts one hone hrules with hfirst | hsecond <;>
    rcases htexts other hother hrules' with hfirst' | hsecond'
  · rw [hfirst, hfirst']
  · rw [hfirst, hsecond'] at hsame
    exact absurd hsame hdigests
  · rw [hsecond, hfirst'] at hsame
    exact absurd hsame.symm hdigests
  · rw [hsecond, hsecond']

theorem isBuilt_empty : IsBuilt empty :=
  ⟨[], rfl⟩

/-- The rule set that is compiled from rules, or the empty one where there is none. -/
def ofRules (rules : List Rule) : RuleSet :=
  (build rules).toOption.getD .empty

theorem isBuilt_ofRules (rules : List Rule) : (ofRules rules).IsBuilt := by
  unfold ofRules
  cases hbuild : build rules with
  | ok set => exact ⟨rules, hbuild⟩
  | error failure => exact isBuilt_empty

theorem build_ofRules {rules : List Rule} (hbuilds : (build rules).toOption.isSome = true) :
    build rules = .ok (ofRules rules) := by
  obtain ⟨set, hset⟩ := isResult_of_isSome hbuilds
  rw [ofRules, hset]
  rfl

/-- A built rule set has the rules that count, and their version. -/
theorem build_counting {rules : List Rule} {set : RuleSet} (hbuild : build rules = .ok set) :
    firstOfLevels rules = .ok set.counting ∧
      Rule.versionOf set.counting = .ok set.version := by
  obtain ⟨first, hfirst, hchosen, -, hversion⟩ := build_ok hbuild
  have hcounting : set.counting = first := by
    have hkeys : set.chosen.map (fun rule => (rule.tier, rule.rule)) = first.map id := by
      refine mapM_keys id (fun rule : ChosenRule => (rule.tier, rule.rule))
        (fun item rule hrule => ?_) hchosen
      obtain ⟨expression, -, rfl⟩ := map_ok hrule
      rfl
    rwa [List.map_id] at hkeys
  rw [hcounting]
  exact ⟨hfirst, hversion⟩

/-- The version of a rule set without rules that count is no digest. -/
theorem version_of_counting_nil {set : RuleSet} (hbuilt : set.IsBuilt)
    (hnone : set.counting = []) : set.version = Rule.emptyVersion := by
  obtain ⟨rules, hbuild⟩ := hbuilt
  have hversion := (build_counting hbuild).2
  rw [hnone, Rule.versionOf_nil] at hversion
  exact (Except.ok.inj hversion).symm

/-- The version of any other rule set is the digest of its text. -/
theorem version_of_counting {set : RuleSet} (hbuilt : set.IsBuilt)
    (hsome : set.counting ≠ []) : set.version = Rule.digest set.text := by
  obtain ⟨rules, hbuild⟩ := hbuilt
  exact Rule.versionOf_ok hsome (build_counting hbuild).2

/-- Where no rule counts, the lowest tier is the answer. -/
theorem classify_of_counting_nil {set : RuleSet} (hnone : set.counting = [])
    (metrics : SkillMetrics) : set.classify metrics = .ok .beginner := by
  have hchosen : set.chosen = [] := List.map_eq_nil_iff.mp hnone
  have hreached (tiers : List Tier) : set.firstReached metrics tiers = .ok .beginner := by
    induction tiers with
    | nil => rfl
    | cons tier rest ih =>
        unfold firstReached reaches chosenFor?
        rw [hchosen]
        exact ih
  exact hreached Tier.priority

/-- Rule sets with one version classify alike, if the digest tells them apart. -/
theorem classify_of_version {sets : Set RuleSet} (hdiffer : DigestsDiffer sets)
    {first second : RuleSet} (hfirst : first ∈ sets) (hsecond : second ∈ sets)
    (hbuilt : first.IsBuilt) (hbuilt' : second.IsBuilt)
    (hversion : first.version = second.version) (metrics : SkillMetrics) :
    first.classify metrics = second.classify metrics := by
  by_cases hnone : first.counting = []
  · by_cases hnone' : second.counting = []
    · rw [classify_of_counting_nil hnone, classify_of_counting_nil hnone']
    · rw [version_of_counting_nil hbuilt hnone, version_of_counting hbuilt' hnone'] at hversion
      exact absurd hversion.symm (Rule.digest_ne_emptyVersion _)
  · by_cases hnone' : second.counting = []
    · rw [version_of_counting hbuilt hnone, version_of_counting_nil hbuilt' hnone'] at hversion
      exact absurd hversion (Rule.digest_ne_emptyVersion _)
    · rw [version_of_counting hbuilt hnone, version_of_counting hbuilt' hnone'] at hversion
      have htext := hdiffer first hfirst second hsecond hnone hnone' hversion
      obtain ⟨rules, hbuild⟩ := hbuilt
      obtain ⟨rules', hbuild'⟩ := hbuilt'
      rcases build_of_canonicalText (build_counting hbuild).1 (build_counting hbuild').1 htext with
        ⟨set, set', hset, hset', hclassify⟩ | ⟨failure, hfailure, -⟩
      · rw [hbuild] at hset
        rw [hbuild'] at hset'
        rw [Except.ok.inj hset, Except.ok.inj hset']
        exact hclassify metrics
      · rw [hbuild] at hfailure
        cases hfailure

/-- The rule set of one active rule for a level that exists. -/
theorem build_singleton {rule : Rule} {tier : Tier} {expression : Expression}
    (hactive : rule.isActive = true) (htier : rule.tier = .ok tier)
    (hcompile : Expression.compile rule.conditions = .ok expression)
    (hwritable : rule.IsWritable) :
    build [rule] = .ok {
      rules := [rule]
      chosen := [⟨tier, rule, expression⟩]
      version := Rule.digest (Rule.canonicalText [(tier, rule)]) } := by
  have hfirst : firstOfLevels [rule] = .ok [(tier, rule)] := by
    unfold firstOfLevels
    rw [List.filter_cons_of_pos hactive, List.filter_nil, List.mapM_cons, htier]
    rfl
  have hall : ∀ item ∈ [(tier, rule)], item.2.IsWritable :=
    List.forall_mem_singleton.mpr hwritable
  rw [build_eq hfirst, Rule.versionOf_of_writable (List.cons_ne_nil _ _) hall, compileRules,
    List.mapM_cons, hcompile]
  rfl

/-- A rule for experts: the share of high ratings is at least a number. -/
def expertRule (id : String) (percent : Int) : Rule :=
  ⟨id, "expert", [⟨some "high%", some ">=", .ofInt percent, none, none, [], none⟩], 0, true⟩

/-- The rule set of such a rule alone. -/
def expertSet (id : String) (percent : Int) : RuleSet where
  rules := [expertRule id percent]
  chosen := [⟨.expert, expertRule id percent,
    (Expression.compile (expertRule id percent).conditions).toOption.getD ⟨[]⟩⟩]
  version := "2df5ba141d4f33b3"

/-- A rule set that takes everyone for an expert. -/
def lenient : RuleSet :=
  expertSet "d67c0e40de202bd2" 0

/-- A rule set that takes nobody for an expert, under the same version. -/
def demanding : RuleSet :=
  expertSet "6d94551663032085" 999

private theorem isBuilt_expertSet {id : String} {percent : Int}
    (hcompiles : (Expression.compile (expertRule id percent).conditions).toOption.isSome = true)
    (hwritable : (expertRule id percent).IsWritable)
    (hversion : Rule.digest (Rule.canonicalText [(.expert, expertRule id percent)]) =
      "2df5ba141d4f33b3") : (expertSet id percent).IsBuilt := by
  obtain ⟨expression, hexpression⟩ := isResult_of_isSome hcompiles
  refine ⟨[expertRule id percent], ?_⟩
  rw [build_singleton rfl rfl hexpression hwritable, expertSet, hexpression, hversion]
  rfl

theorem isBuilt_lenient : lenient.IsBuilt := by
  apply isBuilt_expertSet
  · decide +kernel
  · decide +kernel
  · decide +kernel

theorem isBuilt_demanding : demanding.IsBuilt := by
  apply isBuilt_expertSet
  · decide +kernel
  · decide +kernel
  · decide +kernel

/-- The digest does not tell all canonical texts apart. -/
theorem not_digestsDiffer : ¬ DigestsDiffer { lenient, demanding } := by
  intro hdiffer
  have htext : lenient.text = demanding.text := by
    refine hdiffer lenient (.inl rfl) demanding (.inr rfl) (List.cons_ne_nil _ _)
      (List.cons_ne_nil _ _) ?_
    rw [← version_of_counting isBuilt_lenient (List.cons_ne_nil _ _),
      ← version_of_counting isBuilt_demanding (List.cons_ne_nil _ _)]
    rfl
  exact absurd htext (by decide +kernel)

end RuleSet

end SkillTiers
