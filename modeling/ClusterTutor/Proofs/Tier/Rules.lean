import ClusterTutor.Proofs.Data.Except
import ClusterTutor.Tier.Basic

/-!
# Recorded and earned tiers

A tier of a family is unlocked because it was recorded, or because the facts open it. The
rules mix the two, and this module takes them apart: what was recorded is
`ClusterTutor.TierFacts.recordedTier`, and what the facts alone open is
`ClusterTutor.TierFacts.earnedTier`, which is what the rules say when nothing was recorded.
The highest unlocked tier is the higher of them
(`ClusterTutor.TierFacts.highestTier_eq_max`).
-/

namespace ClusterTutor

/-! ### Families by their names -/

namespace Families

/-- **Every family is kept under its own short name.** -/
def Keyed (families : Families) : Prop := ∀ id f, families.get? id = some f → f.id = id

theorem Keyed.insert {families : Families} (h : families.Keyed) (f : Family) :
    Keyed (families.insert f.id f) := by
  intro id g hg
  rw [OrderedMap.get?_insert] at hg
  split at hg
  · rename_i hid
    rw [← Option.some.inj hg, hid]
  · exact h id g hg

/-- Families that were read are kept under their own names. -/
theorem keyed_of_ofValue {v : Value} {families : Families} (h : ofValue v = .ok families) :
    families.Keyed := by
  obtain ⟨items, -, h⟩ := bind_eq_ok.1 h
  refine foldlM_induction (P := Keyed) ?_ (fun earlier item later hkeyed hstep => ?_) h
  · intro id f hf
    simp at hf
  · obtain ⟨f, -, hstep⟩ := bind_eq_ok.1 hstep
    split at hstep
    · exact (throw_bind_ne_ok.1 hstep).elim
    · obtain rfl := Except.ok.inj hstep
      exact hkeyed.insert f

/-- The families that a tool belongs to are found by their names. -/
theorem Keyed.mem_ofTool {families : Families} (h : families.Keyed) {tool id : String} :
    id ∈ families.ofTool tool ↔ ∃ f, families.get? id = some f ∧ tool ∈ f.toolNames := by
  simp only [ofTool, Text.sorted, Text.sortedBy, List.mem_mergeSort, List.mem_map, List.mem_filter,
    OrderedMap.values, List.contains_iff_mem]
  constructor
  · rintro ⟨f, ⟨⟨⟨id', f'⟩, hmem, rfl⟩, htool⟩, rfl⟩
    have hget := (OrderedMap.mem_toList_iff families id' f').1 hmem
    exact ⟨f', (h id' f' hget).symm ▸ hget, htool⟩
  · rintro ⟨f, hget, htool⟩
    have hmem := (OrderedMap.mem_toList_iff families id f).2 hget
    exact ⟨f, ⟨⟨(id, f), hmem, rfl⟩, htool⟩, h id f hget⟩

end Families

/-! ### The rules -/

namespace TierFacts

variable {s : TierFacts} {families : Families} {family : String}

/-- The recorded tier of a family, which is the first one if none was recorded. -/
def recordedTier (s : TierFacts) (family : String) : Int :=
  (s.unlockedTiers.get? family).getD 1

/-- The tier of a family that the facts alone open, whatever was recorded. -/
def earnedTier (s : TierFacts) (families : Families) (family : String) : Int :=
  { s with unlockedTiers := .empty }.highestTier families family

/-- Whether the facts alone open a tier of a family, if there is such a family. -/
def opens (s : TierFacts) (families : Families) (family : String) (tier : Int) : Bool :=
  (families.get? family).any fun f => s.earned family f tier

/-- What opens the third tier opens the second one. -/
theorem opens_two_of_opens_three (h : s.opens families family 3 = true) :
    s.opens families family 2 = true := by
  cases hf : families.get? family with
  | none => simp [opens, hf] at h
  | some f =>
    simp only [opens, hf, Option.any_some, earned, Bool.and_eq_true] at h ⊢
    exact ⟨h.1, rfl⟩

theorem isUnlocked_iff (s : TierFacts) (families : Families) (family : String) {tier : Int}
    (h : 1 < tier) (h' : tier ≤ maxTier) :
    s.isUnlocked families family tier = true ↔
      tier ≤ s.recordedTier family ∨ s.opens families family tier = true := by
  have hone : ¬tier ≤ 1 := by omega
  have hmax : ¬maxTier < tier := by omega
  simp only [isUnlocked, hone, hmax, if_false, recordedTier, opens]
  cases families.get? family <;>
    by_cases hrecorded : tier ≤ (s.unlockedTiers.get? family).getD 1 <;> simp [hrecorded]

theorem highestTier_eq (s : TierFacts) (families : Families) (family : String) :
    s.highestTier families family =
      if 2 ≤ s.recordedTier family ∨ s.opens families family 2 = true then
        if 3 ≤ s.recordedTier family ∨ s.opens families family 3 = true then 3 else 2
      else 1 := by
  have htwo := isUnlocked_iff s families family (show 1 < (2 : Int) by decide) (by decide)
  have hthree := isUnlocked_iff s families family (show 1 < (3 : Int) by decide) (by decide)
  simp only [highestTier, ← htwo, ← hthree]
  cases s.isUnlocked families family 2 <;> cases s.isUnlocked families family 3 <;> simp

theorem earnedTier_eq (s : TierFacts) (families : Families) (family : String) :
    s.earnedTier families family =
      if s.opens families family 2 then if s.opens families family 3 then 3 else 2 else 1 := by
  have hrecorded : recordedTier { s with unlockedTiers := .empty } family = 1 := rfl
  have hopens : ∀ tier, opens { s with unlockedTiers := .empty } families family tier =
      s.opens families family tier := fun _ => rfl
  simp [earnedTier, highestTier_eq, hrecorded, hopens]

theorem one_le_highestTier (s : TierFacts) (families : Families) (family : String) :
    1 ≤ s.highestTier families family := by
  rw [highestTier_eq]
  split
  · split <;> decide
  · decide

/-- **The highest tier is the higher one of the recorded and the earned tier.** -/
theorem highestTier_eq_max (families : Families) (hlow : 1 ≤ s.recordedTier family)
    (hhigh : s.recordedTier family ≤ maxTier) :
    s.highestTier families family =
      max (s.recordedTier family) (s.earnedTier families family) := by
  simp only [maxTier] at hhigh
  rw [highestTier_eq, earnedTier_eq]
  by_cases hthree : s.opens families family 3 = true
  · simp only [hthree, opens_two_of_opens_three hthree, or_true, if_true]
    omega
  by_cases htwo : s.opens families family 2 = true
  · simp only [hthree, htwo, or_true, or_false, Bool.false_eq_true, if_true, if_false]
    split <;> omega
  · simp only [hthree, htwo, or_false, Bool.false_eq_true, if_false]
    split
    · split <;> omega
    · omega

end TierFacts

end ClusterTutor
