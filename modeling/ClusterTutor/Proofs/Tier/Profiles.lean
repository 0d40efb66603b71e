import ClusterTutor.Proofs.Tier.HighWater

/-!
# The facts of each profile

What is recorded for one profile leaves the facts of every other one alone, and so do
profiles that come and go. The high-water mark of a profile therefore depends on the calls
for that profile only (`ClusterTutor.HighWater.congr`), whoever else makes calls between them,
and starts anew when the profile is deleted.
-/

namespace ClusterTutor

variable {profile other : ProfileNumber} {s s' s'' : Store} {t t' : Tutor}

namespace Store

/-- **Two stores that know the same facts of a profile**, as far as tiers depend on them. -/
structure SameFactsOf (profile : ProfileNumber) (s s' : Store) : Prop where
  /-- The tools used are the same. -/
  tools : ∀ family, s'.tools.get? (profile, family) = s.tools.get? (profile, family)
  /-- The quizzes are the same. -/
  quizzes : ∀ family, s'.quizzes.get? (profile, family) = s.quizzes.get? (profile, family)
  /-- The recorded tiers are the same. -/
  tiers : ∀ family, s'.tiers.get? (profile, family) = s.tiers.get? (profile, family)
  /-- The gates are the same. -/
  gates : ∀ name, s'.gates.get? (profile, name) = s.gates.get? (profile, name)

namespace SameFactsOf

theorem of_eq (htools : s'.tools = s.tools) (hquizzes : s'.quizzes = s.quizzes)
    (htiers : s'.tiers = s.tiers) (hgates : s'.gates = s.gates) : SameFactsOf profile s s' where
  tools _ := by rw [htools]
  quizzes _ := by rw [hquizzes]
  tiers _ := by rw [htiers]
  gates _ := by rw [hgates]

theorem refl (profile : ProfileNumber) (s : Store) : SameFactsOf profile s s :=
  of_eq rfl rfl rfl rfl

theorem trans (h : SameFactsOf profile s s') (h' : SameFactsOf profile s' s'') :
    SameFactsOf profile s s'' where
  tools family := (h'.tools family).trans (h.tools family)
  quizzes family := (h'.quizzes family).trans (h.quizzes family)
  tiers family := (h'.tiers family).trans (h.tiers family)
  gates name := (h'.gates name).trans (h.gates name)

/-- Deleting another profile leaves the facts alone. -/
theorem deleteProfile (h : profile ≠ other) (s : Store) :
    SameFactsOf profile s (s.deleteProfile other).1 where
  tools family := by simp [Store.deleteProfile, Table.get?_deleteProfile, h]
  quizzes family := by simp [Store.deleteProfile, Table.get?_deleteProfile, h]
  tiers family := by simp [Store.deleteProfile, Table.get?_deleteProfile, h]
  gates name := by simp [Store.deleteProfile, Table.get?_deleteProfile, h]

theorem raiseTier (h : profile ≠ other) (s : Store) (family : String) (tier : Int) :
    SameFactsOf profile s (s.raiseTier other family tier) where
  tools _ := rfl
  quizzes _ := rfl
  tiers family' := by simp [Store.raiseTier, h.symm]
  gates _ := rfl

theorem markToolUsed (h : profile ≠ other) (s : Store) (family tool : String) :
    SameFactsOf profile s (s.markToolUsed other family tool) where
  tools family' := by simp [Store.markToolUsed, h.symm]
  quizzes _ := rfl
  tiers _ := rfl
  gates _ := rfl

/-- A tool of another profile leaves the facts alone. -/
theorem notingTool (h : profile ≠ other) (s : Store) (families : List String) (tool : String) :
    SameFactsOf profile s (s.notingTool other families tool) := by
  simp only [Store.notingTool]
  induction families generalizing s with
  | nil => exact refl profile s
  | cons family families ih =>
    exact (markToolUsed h s family tool).trans (ih (s.markToolUsed other family tool))

/-- A quiz of another profile leaves the facts alone. -/
theorem notingQuiz (h : profile ≠ other) (s : Store) (family : String) (score : Binary64) :
    SameFactsOf profile s (s.notingQuiz other family score) where
  tools _ := rfl
  quizzes family' := by simp [Store.notingQuiz, h.symm]
  tiers _ := rfl
  gates _ := rfl

/-- A gate of another profile leaves the facts alone. -/
theorem notingGate (h : profile ≠ other) (s : Store) (g : GateResult) :
    SameFactsOf profile s (s.notingGate other g) where
  tools _ := rfl
  quizzes _ := rfl
  tiers _ := rfl
  gates name := by simp [Store.notingGate, h.symm]

/-- Refreshing the tiers of another profile leaves the facts alone. -/
theorem refreshTiers (h : profile ≠ other) (t : Tutor) (families : List String) :
    SameFactsOf profile t.store (t.refreshTiers other families).store := by
  rw [Tutor.store_refreshTiers]
  generalize t.store.tierFacts other = facts
  generalize t.store = s
  induction families generalizing s with
  | nil => exact refl profile s
  | cons family families ih =>
    refine trans ?_ (ih _)
    unfold raiseFrom
    split
    · exact raiseTier h s family _
    · exact refl profile s

/-- Noting something that leaves the facts alone, and refreshing the tiers of another profile,
leaves the facts alone. -/
theorem noting {noted : Store} (h : SameFactsOf profile t.store noted) (hne : profile ≠ other)
    (families : List String) :
    SameFactsOf profile t.store ({ t with store := noted }.refreshTiers other families).store :=
  h.trans (refreshTiers hne { t with store := noted } families)

end SameFactsOf

end Store

/-- **A call for one profile leaves the facts of the others alone.** -/
theorem FactStep.sameFactsOf {c : LearnerCall} (h : FactStep t other c t')
    (hne : profile ≠ other) : Store.SameFactsOf profile t.store t'.store := by
  cases h with
  | tool => exact (Store.SameFactsOf.notingTool hne _ _ _).noting hne _
  | quiz _ _ => exact (Store.SameFactsOf.notingQuiz hne _ _ _).noting hne _
  | @gate _ g reviews _ =>
    have hnoted := (Store.SameFactsOf.notingGate hne t.store g).noting hne [g.family]
    exact ⟨hnoted.tools, hnoted.quizzes, hnoted.tiers, hnoted.gates⟩
  | idle _ _ _ => exact .of_eq rfl rfl rfl rfl

/-- A call changes no families. -/
theorem FactStep.families_eq {c : LearnerCall} (h : FactStep t other c t') :
    t'.families = t.families := by
  cases h <;> rfl

variable {families : Families} {cs : List LearnerCall}

/-- **The high-water mark of a profile depends on its own facts only.** -/
theorem HighWater.congr (h : HighWater families profile cs t) (hfamilies : t'.families = t.families)
    (hfacts : Store.SameFactsOf profile t.store t'.store) : HighWater families profile cs t' where
  families_eq := hfamilies.trans h.families_eq
  remembers := by
    obtain ⟨htools, hquizzes, hnamed, hgates⟩ := h.remembers
    refine ⟨fun id f hf name hname => ?_, fun id hid => ?_, fun name g hg => ?_, fun id => ?_⟩
    · rw [hfacts.tools]
      exact htools id f hf name hname
    · rw [hfacts.quizzes]
      exact hquizzes id hid
    · rw [hfacts.gates] at hg
      exact hnamed name g hg
    · rw [hfacts.gates]
      exact hgates id
  isGreatest id f hf := by
    have hrecorded : t'.recordedTier profile id = t.recordedTier profile id := by
      simp [Tutor.recordedTier, TierFacts.recordedTier, Store.tierFacts, hfacts.tiers]
    rw [hrecorded]
    exact h.isGreatest id f hf

/-- Nothing is known of a profile that was deleted. -/
theorem Store.knowsNothingOf_deleteProfile (s : Store) (profile : ProfileNumber) :
    (s.deleteProfile profile).1.KnowsNothingOf profile where
  tools family := by simp [Store.deleteProfile, Table.get?_deleteProfile]
  quizzes family := by simp [Store.deleteProfile, Table.get?_deleteProfile]
  tiers family := by simp [Store.deleteProfile, Table.get?_deleteProfile]
  gates name := by simp [Store.deleteProfile, Table.get?_deleteProfile]

end ClusterTutor
