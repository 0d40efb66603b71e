import ClusterTutor.Proofs.Tier.Rules
import Mathlib

/-!
# Tiers and progress

The tiers of a family open from the first one on, and more progress opens more of them. Both
are about a rule that looks at five things – the recorded tier, the family, the quiz, the tools
and the gate – of which each may be missing, and at numbers of tiers that need not be tiers at
all.

* **The unlocked tiers of a family are those up to the highest one**, whatever number is asked
  for (`ClusterTutor.TierFacts.isUnlocked_iff_le`). The highest one is looked for from below, and
  the search ends at the first tier that is locked; nothing behind it is missed, since what opens
  the third tier opens the second one.
* **Nothing that counts for a tier is held against the learner**: each of the things looked at
  only helps (`ClusterTutor.TierFacts.opens_mono`).

Together they make `ClusterTutor.TierFacts.unlocked_nest_and_grow`.
-/

namespace ClusterTutor.TierFacts

variable {s s' : TierFacts} {families : Families} {family : String} {tier : Int}

/-! ### Tiers from the first one on -/

/-- **The unlocked tiers of a family**, among all whole numbers. -/
def unlocked (s : TierFacts) (families : Families) (family : String) : Set Int :=
  {tier | s.isUnlocked families family tier = true}

theorem isUnlocked_of_le_one (h : tier ≤ 1) : s.isUnlocked families family tier = true := by
  simp [isUnlocked, h]

theorem isUnlocked_of_maxTier_lt (h : maxTier < tier) :
    s.isUnlocked families family tier = false := by
  have hone : ¬tier ≤ 1 := by
    simp only [maxTier] at h
    omega
  simp [isUnlocked, hone, h]

/-- Where the third tier is unlocked, so is the second one. -/
theorem isUnlocked_two_of_three (h : s.isUnlocked families family 3 = true) :
    s.isUnlocked families family 2 = true := by
  rw [isUnlocked_iff s families family (by decide) (by decide)] at h ⊢
  rcases h with hrecorded | hopens
  · exact Or.inl (by omega)
  · exact Or.inr (opens_two_of_opens_three hopens)

theorem highestTier_le_maxTier (s : TierFacts) (families : Families) (family : String) :
    s.highestTier families family ≤ maxTier := by
  unfold highestTier
  split
  · decide
  · split <;> decide

/-- **The unlocked tiers are those up to the highest one.** -/
theorem isUnlocked_iff_le (s : TierFacts) (families : Families) (family : String) (tier : Int) :
    s.isUnlocked families family tier = true ↔ tier ≤ s.highestTier families family := by
  have hlow := one_le_highestTier s families family
  have hhigh := highestTier_le_maxTier s families family
  rcases le_or_gt tier 1 with hone | hone
  · exact iff_of_true (isUnlocked_of_le_one hone) (hone.trans hlow)
  rcases lt_or_ge maxTier tier with hmax | hmax
  · rw [isUnlocked_of_maxTier_lt hmax]
    exact iff_of_false Bool.false_ne_true (by omega)
  have hnest : s.isUnlocked families family 3 = true → s.isUnlocked families family 2 = true :=
    isUnlocked_two_of_three
  simp only [maxTier] at hmax
  obtain rfl | rfl : tier = 2 ∨ tier = 3 := by omega
  · unfold highestTier
    cases s.isUnlocked families family 2 <;> cases s.isUnlocked families family 3 <;> simp
  · unfold highestTier
    cases htwo : s.isUnlocked families family 2 with
    | false =>
      rw [htwo] at hnest
      cases hthree : s.isUnlocked families family 3 with
      | false => simp
      | true => exact absurd (hnest hthree) Bool.false_ne_true
    | true => cases s.isUnlocked families family 3 <;> simp

/-! ### Progress -/

/-- **Progress that has grown** from one state to another: no tool is forgotten, no score is
lower, no recorded tier is lower, and every gate that was passed still is. What is unknown may
become known, and an undefined score may become anything. -/
structure GrowsTo (s s' : TierFacts) : Prop where
  /-- The tools that were used are still known to be. -/
  tools : ∀ family name, name ∈ (s.toolsUsed.get? family).getD .empty →
    name ∈ (s'.toolsUsed.get? family).getD .empty
  /-- The scores are at least as high. -/
  quizzes : ∀ family r, s.quizzes.get? family = some r → r.score ≠ .undefined →
    ∃ r', s'.quizzes.get? family = some r' ∧ r.score.le r'.score = true
  /-- The recorded tiers are at least as high. -/
  recorded : ∀ family tier, s.unlockedTiers.get? family = some tier →
    tier ≤ s'.recordedTier family
  /-- The gates that were passed still are. -/
  gates : ∀ family tier, s.gatePassed family tier = true → s'.gatePassed family tier = true

theorem GrowsTo.quizPassed (h : s.GrowsTo s') (hpassed : s.quizPassed family = true) :
    s'.quizPassed family = true := by
  obtain ⟨r, hr, hscore⟩ := (Option.any_eq_true _ _).1 hpassed
  obtain ⟨r', hr', hle⟩ := h.quizzes family r hr (Binary64.ne_undefined_of_intLe hscore)
  exact (Option.any_eq_true _ _).2 ⟨r', hr', Binary64.intLe_of_le hle hscore⟩

/-- A family of which no tool is missing has none missing later. -/
theorem GrowsTo.isEmpty_missingTools (h : s.GrowsTo s') {f : Family}
    (hnone : (s.missingTools f).isEmpty = true) : (s'.missingTools f).isEmpty = true := by
  simp only [missingTools, List.isEmpty_iff, List.filter_eq_nil_iff, Bool.not_eq_true',
    Bool.not_eq_false, NameSet.contains_iff] at hnone ⊢
  exact fun name hname => h.tools f.id name (hnone name hname)

/-- **What opens a tier still opens it later.** -/
theorem opens_mono (h : s.GrowsTo s') (hopens : s.opens families family tier = true) :
    s'.opens families family tier = true := by
  obtain ⟨f, hf, hearned⟩ := (Option.any_eq_true _ _).1 hopens
  simp only [earned, Bool.and_eq_true, Bool.or_eq_true] at hearned
  obtain ⟨⟨hquiz, htools⟩, hgate⟩ := hearned
  refine (Option.any_eq_true _ _).2 ⟨f, hf, ?_⟩
  simp only [earned, Bool.and_eq_true, Bool.or_eq_true]
  exact ⟨⟨h.quizPassed hquiz, h.isEmpty_missingTools htools⟩, hgate.imp id (h.gates family 2)⟩

/-- A recorded tier above the first one is recorded later, or a higher one is. -/
theorem GrowsTo.le_recordedTier (h : s.GrowsTo s') (hone : 1 < tier)
    (hrecorded : tier ≤ s.recordedTier family) : tier ≤ s'.recordedTier family := by
  cases hget : s.unlockedTiers.get? family with
  | none =>
    have hfirst : s.recordedTier family = 1 := by rw [recordedTier, hget, Option.getD_none]
    omega
  | some recorded =>
    have hsame : s.recordedTier family = recorded := by
      rw [recordedTier, hget, Option.getD_some]
    exact hrecorded.trans (hsame ▸ h.recorded family recorded hget)

/-- **An unlocked tier stays unlocked.** -/
theorem isUnlocked_mono (h : s.GrowsTo s') (htier : s.isUnlocked families family tier = true) :
    s'.isUnlocked families family tier = true := by
  rcases le_or_gt tier 1 with hone | hone
  · exact isUnlocked_of_le_one hone
  rcases lt_or_ge maxTier tier with hmax | hmax
  · rw [isUnlocked_of_maxTier_lt hmax] at htier
    exact absurd htier Bool.false_ne_true
  rw [isUnlocked_iff s families family hone hmax] at htier
  rw [isUnlocked_iff s' families family hone hmax]
  exact htier.imp (h.le_recordedTier hone) (opens_mono h)

/-- **The unlocked tiers of a family nest, and grow with progress.** For any families and any
facts: with a tier every lower one is unlocked; no tier above `ClusterTutor.maxTier` is; the
highest tier is the greatest one that is unlocked; and after any progress everything that was
unlocked still is. -/
theorem unlocked_nest_and_grow (s : TierFacts) (families : Families) (family : String) :
    IsLowerSet (s.unlocked families family) ∧
    (∀ tier ∈ s.unlocked families family, tier ≤ maxTier) ∧
    IsGreatest (s.unlocked families family) (s.highestTier families family) ∧
    ∀ s', s.GrowsTo s' → s.unlocked families family ⊆ s'.unlocked families family := by
  have hupTo : s.unlocked families family = Set.Iic (s.highestTier families family) :=
    Set.ext fun tier => s.isUnlocked_iff_le families family tier
  refine ⟨?_, fun tier htier => ?_, ?_, fun s' hs' tier htier => isUnlocked_mono hs' htier⟩
  · rw [hupTo]
    exact isLowerSet_Iic _
  · rw [hupTo] at htier
    exact le_trans htier (highestTier_le_maxTier s families family)
  · rw [hupTo]
    exact isGreatest_Iic

/-- A tool more and a better quiz behind a gate: only the first tier is open before, with a tier
on record that is none, and all three are open afterwards. -/
theorem viewer_opens_with_progress :
    let families : Families :=
      .ofList [("viewer", { id := "viewer", name := "Viewer", tools := [{ name := "nvtop" }] })]
    let gates := OrderedMap.ofList [("viewer:tier2", ⟨true, "start", "viewer", 2⟩)]
    let before : TierFacts :=
      { quizzes := .ofList [("viewer", ⟨false, .ofInt 60, 1⟩)]
        unlockedTiers := .ofList [("viewer", -1)]
        gates }
    let after : TierFacts :=
      { toolsUsed := .ofList [("viewer", .ofList ["nvtop"])]
        quizzes := .ofList [("viewer", ⟨true, .ofInt 75, 2⟩)]
        gates }
    before.GrowsTo after ∧ before.highestTier families "viewer" = 1 ∧
      after.highestTier families "viewer" = 3 ∧
      before.unlocked families "viewer" ⊆ after.unlocked families "viewer" := by
  intro families gates before after
  have hgrows : before.GrowsTo after := by
    refine ⟨fun family name hname => ?_, fun family r hr _ => ?_, fun family tier htier => ?_,
      fun family tier hgate => hgate⟩
    · exact absurd hname (NameSet.not_mem_empty name)
    · obtain ⟨rfl, rfl⟩ := Prod.ext_iff.1 (List.mem_singleton.1 (OrderedMap.mem_of_get?_ofList hr))
      exact ⟨_, rfl, by decide +kernel⟩
    · obtain ⟨rfl, rfl⟩ :=
        Prod.ext_iff.1 (List.mem_singleton.1 (OrderedMap.mem_of_get?_ofList htier))
      decide
  obtain ⟨-, -, -, hmono⟩ := before.unlocked_nest_and_grow families "viewer"
  exact ⟨hgrows, by decide +kernel, by decide +kernel, hmono after hgrows⟩

end ClusterTutor.TierFacts
