import ClusterTutor.Proofs.Session.Steps

/-!
# Rows of progress

Step results, gates and review entries are what a learner gets by going through labs, and
they are written by going on in a lab only: the other calls of a session, quizzes, and
profiles that come and go leave those rows alone, or take some of them away.

This is said with one relation between a store and a later one, `ClusterTutor.Store.WritesFor`:
every row that is new, or other than before, is a row of a learner at a lab. Each call is
looked at once for the tables that it writes at all (`ClusterTutor.Tutor.exists_markToolUsed`,
`ClusterTutor.Tutor.exists_recordQuiz`, `ClusterTutor.Tutor.exists_completeLab`), and what
holds of the other tables is read off.
-/

namespace ClusterTutor

variable {owner : ProfileNumber → Lab → Prop} {s s' s'' : Store} {t t' : Tutor} {profile : ProfileNumber} {lab : Lab}

namespace Store

/-- **The step results, gates and review entries written between two stores belong to labs**:
a row that is new, or other than before, is one that a learner gets in a lab, where `owner`
says which learners and which labs these may be. Rows may be gone. -/
structure WritesFor (owner : ProfileNumber → Lab → Prop) (s s' : Store) : Prop where
  /-- A step result is of a step of the lab. -/
  steps : ∀ key r, s'.steps.get? key = some r → s.steps.get? key = some r ∨
    ∃ profile lab, owner profile lab ∧ ∃ step ∈ lab.steps, key = (profile, lab.id, step.id)
  /-- A gate is the one that completing the lab passes. -/
  gates : ∀ key g, s'.gates.get? key = some g → s.gates.get? key = some g ∨
    ∃ profile lab, owner profile lab ∧ key = (profile, Tutor.gateName lab.family lab.tier) ∧
      g = lab.gate
  /-- A review entry is of the family of the lab. -/
  reviews : ∀ key r, s'.reviews.get? key = some r → s.reviews.get? key = some r ∨
    ∃ profile lab, owner profile lab ∧ key = (profile, lab.family)

namespace WritesFor

theorem of_eq (hsteps : s'.steps = s.steps) (hgates : s'.gates = s.gates)
    (hreviews : s'.reviews = s.reviews) : WritesFor owner s s' where
  steps _ _ h := .inl (hsteps ▸ h)
  gates _ _ h := .inl (hgates ▸ h)
  reviews _ _ h := .inl (hreviews ▸ h)

theorem refl (owner : ProfileNumber → Lab → Prop) (s : Store) : WritesFor owner s s := of_eq rfl rfl rfl

theorem trans (h : WritesFor owner s s') (h' : WritesFor owner s' s'') : WritesFor owner s s'' where
  steps key r hr := (h'.steps key r hr).elim (h.steps key r) .inr
  gates key g hg := (h'.gates key g hg).elim (h.gates key g) .inr
  reviews key r hr := (h'.reviews key r hr).elim (h.reviews key r) .inr

end WritesFor

theorem get?_of_get?_deleteProfile {κ α : Type} [DecidableEq κ] {table : Table κ α}
    {key : ProfileNumber × κ} {row : α} (h : (table.deleteProfile profile).get? key = some row) :
    table.get? key = some row := by
  obtain ⟨p, k⟩ := key
  rw [Table.get?_deleteProfile] at h
  split at h
  · cases h
  · exact h

/-- Deleting a profile writes no rows. -/
theorem WritesFor.deleteProfile (owner : ProfileNumber → Lab → Prop) (s : Store) (profile : ProfileNumber) :
    WritesFor owner s (s.deleteProfile profile).1 where
  steps _ _ h := .inl (get?_of_get?_deleteProfile h)
  gates _ _ h := .inl (get?_of_get?_deleteProfile h)
  reviews _ _ h := .inl (get?_of_get?_deleteProfile h)

end Store

/-! ### What calls write at all -/

namespace Tutor

/-- Creating a profile writes profiles. -/
theorem exists_createProfile {name : String} {learner : Profile}
    (h : t.createProfile name = .ok (t', learner)) :
    ∃ profiles lastId, t' =
      { t with store := { t.store with profiles := profiles, lastId := lastId } } := by
  obtain ⟨⟨store, p⟩, hcreate, heq⟩ := map_eq_ok.1 h
  obtain ⟨rfl, -⟩ := Prod.ext_iff.1 heq
  obtain ⟨id, -, -, hr⟩ := Store.createProfile_eq_ok hcreate
  obtain ⟨rfl, -⟩ := Prod.ext_iff.1 hr
  exact ⟨_, _, rfl⟩

/-- A quiz writes quizzes and tiers. -/
theorem exists_recordQuiz {family : String} {score : Binary64} {r : Tutor × QuizResult}
    (h : t.recordQuiz profile family score = .ok r) :
    ∃ quizzes tiers, r.1 =
      { t with store := { t.store with quizzes := quizzes, tiers := tiers } } := by
  unfold recordQuiz at h
  split at h
  · simp at h
  · split at h
    · simp at h
    · split at h
      · simp at h
      · rename_i store result hrecord
        obtain rfl := Except.ok.inj h
        have hquizzes : ∃ quizzes, store = { t.store with quizzes := quizzes } := by
          unfold Store.recordQuiz at hrecord
          simp only at hrecord
          split at hrecord
          · simp at hrecord
          · obtain ⟨rfl, -⟩ := Prod.ext_iff.1 (Except.ok.inj hrecord)
            exact ⟨_, rfl⟩
        obtain ⟨quizzes, rfl⟩ := hquizzes
        obtain ⟨tiers, htiers⟩ := exists_refreshTiers
          { t with store := { t.store with quizzes := quizzes } } profile [family]
        exact ⟨quizzes, tiers, htiers⟩

/-- Completing a lab writes its gate, tiers and reviews, or nothing. -/
theorem exists_completeLab (t : Tutor) (now : Instant) (profile : ProfileNumber) (lab : Lab) :
    ∃ gates tiers reviews, (t.completeLab now profile lab).1 =
        { t with store := { t.store with gates := gates, tiers := tiers, reviews := reviews } } ∧
      (gates = t.store.gates ∨
        gates = t.store.gates.insert (profile, gateName lab.family lab.tier) lab.gate) ∧
      (reviews = t.store.reviews ∨
        ∃ r, reviews = t.store.reviews.insert (profile, lab.family) r) := by
  rw [completeLab_eq]
  split
  · obtain ⟨tiers, htiers⟩ := exists_refreshTiers
      { t with store := t.store.notingGate profile lab.gate } profile [lab.family]
    refine ⟨_, tiers, t.store.reviewsAfterLab now profile lab.family, ?_, .inr rfl, ?_⟩
    · rw [passingGate, htiers]
      rfl
    · unfold Store.reviewsAfterLab
      cases t.store.nextReview? now profile lab.family with
      | none => exact .inl rfl
      | some r => exact .inr ⟨r, rfl⟩
  · exact ⟨t.store.gates, t.store.tiers, t.store.reviews, rfl, .inl rfl, .inl rfl⟩

end Tutor

/-- Going on comes and goes with no profiles. -/
theorem Session.profiles_advance (s : Session) (t : Tutor) (now : Instant) (clock : Magnitude) :
    (s.advance t now clock).tutor.store.profiles = t.store.profiles := by
  have hrun := advanceRun_advance s t now clock
  generalize s.advance t now clock = a at hrun ⊢
  cases hrun with
  | stays _ => rfl
  | goesOn _ _ _ _ => rfl
  | @completes lab step _ _ _ _ =>
    obtain ⟨gates, tiers, reviews, hcomplete, -, -⟩ :=
      (s.notingPass t lab step).exists_completeLab now s.profile lab
    rw [hcomplete]
    rfl

/-! ### What going on writes -/

namespace Store.WritesFor

theorem markToolUsed (owner : ProfileNumber → Lab → Prop) (t : Tutor) (profile : ProfileNumber) (tool : String) :
    WritesFor owner t.store (t.markToolUsed profile tool).store := by
  obtain ⟨tools, tiers, hmark⟩ := t.exists_markToolUsed profile tool
  rw [hmark]
  exact of_eq rfl rfl rfl

theorem recordQuiz {family : String} {score : Binary64} {r : Tutor × QuizResult}
    (h : t.recordQuiz profile family score = .ok r) : WritesFor owner t.store r.1.store := by
  obtain ⟨quizzes, tiers, hquiz⟩ := Tutor.exists_recordQuiz h
  rw [hquiz]
  exact of_eq rfl rfl rfl

/-- Noting a step that is passed writes a result of the step. -/
theorem notingPass {s : Session} {step : LabStep} (h : owner s.profile lab)
    (hstep : step ∈ lab.steps) (t : Tutor) :
    WritesFor owner t.store (s.notingPass t lab step).store where
  steps key r hr := by
    simp only [Session.notingPass, Store.notingStep, OrderedMap.get?_insert] at hr
    split at hr
    · rename_i hkey
      exact .inr ⟨s.profile, lab, h, step, hstep, hkey.symm⟩
    · exact .inl hr
  gates _ _ hg := .inl hg
  reviews _ _ hr := .inl hr

/-- Completing a lab writes the gate of the lab and a review of its family. -/
theorem completeLab (h : owner profile lab) (t : Tutor) (now : Instant) :
    WritesFor owner t.store (t.completeLab now profile lab).1.store := by
  obtain ⟨gates, tiers, reviews, hcomplete, hgates, hreviews⟩ :=
    t.exists_completeLab now profile lab
  rw [hcomplete]
  refine ⟨fun _ _ hr => .inl hr, fun key g hg => ?_, fun key r hr => ?_⟩
  · obtain rfl | rfl := hgates
    · exact .inl hg
    · simp only [OrderedMap.get?_insert] at hg
      split at hg
      · rename_i hkey
        exact .inr ⟨profile, lab, h, hkey.symm, (Option.some.inj hg).symm⟩
      · exact .inl hg
  · obtain rfl | ⟨r', rfl⟩ := hreviews
    · exact .inl hr
    · simp only [OrderedMap.get?_insert] at hr
      split at hr
      · rename_i hkey
        exact .inr ⟨profile, lab, h, hkey.symm⟩
      · exact .inl hr

/-- **Going on in a lab writes rows of this lab only**, for the learner who is in it. -/
theorem advance {s : Session} (howner : ∀ lab, s.lab = some lab → owner s.profile lab) (t : Tutor)
    (now : Instant) (clock : Magnitude) :
    WritesFor owner t.store (s.advance t now clock).tutor.store := by
  have hrun := Session.advanceRun_advance s t now clock
  generalize s.advance t now clock = a at hrun ⊢
  cases hrun with
  | stays _ => exact refl owner t.store
  | goesOn hlab hstep _ _ => exact notingPass (howner _ hlab) (List.mem_of_getElem? hstep) t
  | completes hlab hstep _ _ =>
    have hnoted := notingPass (howner _ hlab) (List.mem_of_getElem? hstep) t
    exact hnoted.trans (completeLab (howner _ hlab) _ now)

end Store.WritesFor

end ClusterTutor
