import ClusterTutor.Proofs.Session.UndoStack
import ClusterTutor.Proofs.Tier.HighWater
import ClusterTutor.Proofs.Tracker.Scores

/-!
# What calls do to the steps of a lab

The calls of a session are looked at here for two things: where they leave the learner in
the lab (`ClusterTutor.Session.place`), and what they leave with the tutor.

| call | place | tutor |
|---|---|---|
| a line that executes a command | as before | its tool is marked as used |
| any other line, undoing, a hint | as before | as before |
| going on, and the step is not passed | as before | as before |
| going on past a step that is not the last | the next step | the step is noted |
| going on past the last step | the end | the step is noted, then the lab is completed |

Going on is analysed in `ClusterTutor.Session.advanceRun_advance`. Completing a lab passes the
gate of its tier and schedules a review of its family, unless the tier does not fit into the
store or the calendar has no day for the review
(`ClusterTutor.Tutor.completeLab_eq`). Going on fails exactly then
(`ClusterTutor.Session.advance_eq_error_iff`).
-/

namespace ClusterTutor

/-! ### Noting steps and reviews -/

namespace Store

/-- A store in which a passed step is noted: the best percentage is kept. -/
def notingStep (s : Store) (profile : ProfileNumber) (lab step : String) (percentage : Int) : Store :=
  let best := (s.steps.get? (profile, lab, step)).elim percentage fun old =>
    max old.percentage percentage
  { s with steps := s.steps.insert (profile, lab, step) ⟨best, true⟩ }

theorem recordStep_of_fits {s : Store} {profile : ProfileNumber} {lab step : String} {percentage : Int}
    (h : fitsStore percentage = true) :
    s.recordStep profile lab step ⟨percentage, true⟩ =
      .ok (s.notingStep profile lab step percentage) := by
  cases hold : s.steps.get? (profile, lab, step) with
  | none => simp [recordStep, notingStep, h, hold]
  | some old => simp [recordStep, notingStep, h, hold]

/-- The review of a family after a lab of it, if the calendar has the day: the first review
of a family is scheduled, and any other counts as a success. -/
def nextReview? (s : Store) (now : Instant) (profile : ProfileNumber) (family : String) :
    Option ReviewSchedule :=
  let next := match s.schedule? profile family with
    | none => (initialReviewInterval, 0)
    | some r => nextInterval (some r) true
  (now.addDays? next.1).map fun dueAt => ⟨family, dueAt, next.1, next.2⟩

/-- The reviews after a lab of a family. -/
def reviewsAfterLab (s : Store) (now : Instant) (profile : ProfileNumber) (family : String) :
    Table String ReviewSchedule :=
  (s.nextReview? now profile family).elim s.reviews fun r => s.reviews.insert (profile, family) r

end Store

/-- The gate that completing a lab passes. -/
def Lab.gate (lab : Lab) : GateResult where
  passed := true
  scenario := lab.id
  family := lab.family
  tier := lab.tier

namespace Tutor

/-- Marking a tool as used writes tools and tiers. -/
theorem exists_markToolUsed (t : Tutor) (profile : ProfileNumber) (tool : String) :
    ∃ tools tiers, t.markToolUsed profile tool =
      { t with store := { t.store with tools := tools, tiers := tiers } } := by
  obtain ⟨tools, htools⟩ := exists_notingTool t.store profile (t.families.ofTool tool) tool
  obtain ⟨tiers, htiers⟩ := exists_refreshTiers
    { t with store := t.store.notingTool profile (t.families.ofTool tool) tool } profile
    (t.families.ofTool tool)
  refine ⟨tools, tiers, ?_⟩
  have hmark : t.markToolUsed profile tool =
      { t with store := t.store.notingTool profile (t.families.ofTool tool) tool }.refreshTiers
        profile (t.families.ofTool tool) := rfl
  rw [hmark, htiers, htools]

/-- A tutor with a passed gate noted, and with the tiers that it opens. -/
def passingGate (t : Tutor) (profile : ProfileNumber) (lab : Lab) : Tutor :=
  { t with store := t.store.notingGate profile lab.gate }.refreshTiers profile [lab.family]

theorem reviewAfterLab_eq (t : Tutor) (now : Instant) (profile : ProfileNumber) (family : String) :
    t.reviewAfterLab now profile family =
      match t.store.nextReview? now profile family with
      | none => .error .afterCalendar
      | some _ => .ok (t.withReviews (t.store.reviewsAfterLab now profile family)) := by
  cases hold : t.store.schedule? profile family with
  | none =>
    cases hday : now.addDays? initialReviewInterval with
    | none =>
      simp [reviewAfterLab, Store.nextReview?, Store.scheduleReview, Store.putOff, hold, hday,
        Except.map]
    | some day =>
      simp [reviewAfterLab, Store.nextReview?, Store.reviewsAfterLab, Store.scheduleReview,
        Store.putOff, hold, hday, Except.map, withReviews]
  | some r =>
    cases hday : now.addDays? (Store.nextInterval (some r) true).1 with
    | none =>
      simp [reviewAfterLab, Store.nextReview?, Store.recordReview, Store.putOff, hold, hday,
        Except.map]
    | some day =>
      simp [reviewAfterLab, Store.nextReview?, Store.reviewsAfterLab, Store.recordReview,
        Store.putOff, hold, hday, Except.map, withReviews]

theorem nextReview?_passingGate (t : Tutor) (now : Instant) (profile : ProfileNumber) (lab : Lab)
    (family : String) :
    (t.passingGate profile lab).store.nextReview? now profile family =
      t.store.nextReview? now profile family := by
  obtain ⟨tiers, htiers⟩ := exists_refreshTiers
    { t with store := t.store.notingGate profile lab.gate } profile [lab.family]
  rw [passingGate, htiers]
  rfl

theorem reviewsAfterLab_passingGate (t : Tutor) (now : Instant) (profile : ProfileNumber) (lab : Lab)
    (family : String) :
    (t.passingGate profile lab).store.reviewsAfterLab now profile family =
      t.store.reviewsAfterLab now profile family := by
  obtain ⟨tiers, htiers⟩ := exists_refreshTiers
    { t with store := t.store.notingGate profile lab.gate } profile [lab.family]
  rw [passingGate, htiers]
  rfl

/-- **What completing a lab records**: nothing if its tier does not fit into the store, and
otherwise its gate and, if the calendar has the day, a review of its family. -/
theorem completeLab_eq (t : Tutor) (now : Instant) (profile : ProfileNumber) (lab : Lab) :
    t.completeLab now profile lab =
      if fitsStore lab.tier then
        ((t.passingGate profile lab).withReviews
            (t.store.reviewsAfterLab now profile lab.family),
          if (t.store.nextReview? now profile lab.family).isSome then .ok ()
          else .error .afterCalendar)
      else (t, .error .numberTooLarge) := by
  have hgate := recordGate_eq t profile lab.gate
  by_cases hfits : fitsStore lab.tier = true
  · rw [if_pos (show fitsStore lab.gate.tier = true from hfits)] at hgate
    have hpassed : t.recordGate profile lab.family lab.tier lab.id true =
        .ok (t.passingGate profile lab) := hgate
    have hreview := reviewAfterLab_eq (t.passingGate profile lab) now profile lab.family
    rw [nextReview?_passingGate, reviewsAfterLab_passingGate] at hreview
    cases hnext : t.store.nextReview? now profile lab.family with
    | none =>
      -- The reviews stay as they are.
      have hreviews : (t.passingGate profile lab).withReviews
          (t.store.reviewsAfterLab now profile lab.family) = t.passingGate profile lab := by
        rw [← reviewsAfterLab_passingGate, Store.reviewsAfterLab, nextReview?_passingGate, hnext]
        rfl
      rw [hnext] at hreview
      simp [completeLab, hpassed, hreview, hfits, hreviews]
    | some r =>
      rw [hnext] at hreview
      simp [completeLab, hpassed, hreview, hfits]
  · rw [if_neg (show ¬fitsStore lab.gate.tier = true from hfits)] at hgate
    have hrefused : t.recordGate profile lab.family lab.tier lab.id true =
        .error .numberTooLarge := hgate
    simp [completeLab, hrefused, hfits]

/-- **The end of a lab is refused** if its tier does not fit into the store, and otherwise if the
calendar has no day for the next review of its family. -/
def RefusesEnd (t : Tutor) (now : Instant) (profile : ProfileNumber) (lab : Lab) (fault : StoreFault) :
    Prop :=
  if fitsStore lab.tier then
    fault = .afterCalendar ∧ t.store.nextReview? now profile lab.family = none
  else fault = .numberTooLarge

theorem exists_refusesEnd_iff {t : Tutor} {now : Instant} {profile : ProfileNumber} {lab : Lab} :
    (∃ fault, t.RefusesEnd now profile lab fault) ↔
      fitsStore lab.tier = false ∨ t.store.nextReview? now profile lab.family = none := by
  unfold RefusesEnd
  cases fitsStore lab.tier <;> simp

theorem completeLab_eq_error_iff {t : Tutor} {now : Instant} {profile : ProfileNumber} {lab : Lab}
    {fault : StoreFault} :
    (t.completeLab now profile lab).2 = .error fault ↔ t.RefusesEnd now profile lab fault := by
  rw [completeLab_eq, RefusesEnd]
  by_cases hfits : fitsStore lab.tier = true
  · rw [if_pos hfits, if_pos hfits]
    cases t.store.nextReview? now profile lab.family with
    | none => simp [eq_comm]
    | some r => simp
  · rw [if_neg hfits, if_neg hfits]
    simp [eq_comm]

end Tutor

/-! ### Going on -/

/-- A score is a percentage. -/
theorem StepScore.fitsStore_percentage (expected : List String) (tracker : Tracker)
    (passingScore : Int) :
    fitsStore (StepScore.of expected tracker passingScore).percentage = true := by
  have hle := percentage_le expected tracker passingScore
  rw [fitsStore, Bool.and_eq_true, decide_eq_true_iff, decide_eq_true_iff]
  omega

namespace Session

/-- The score of a step in a session. -/
def scoreOf (s : Session) (step : LabStep) : StepScore :=
  .of step.expected s.tracker step.passingScore

/-- The session at the next step. -/
def atNextStep (s : Session) (clock : Magnitude) : Session :=
  { s with stepIndex := s.stepIndex + 1 }.resetStep clock

/-- A tutor with the current step of a session noted as passed. -/
def notingPass (s : Session) (t : Tutor) (lab : Lab) (step : LabStep) : Tutor :=
  { t with store := t.store.notingStep s.profile lab.id step.id (s.scoreOf step).percentage }

/-- **The exits of going on**: the current step is not passed, or it is passed and is not the
last one, or it is passed and the lab is completed. -/
inductive AdvanceRun (s : Session) (t : Tutor) (now : Instant) (clock : Magnitude) :
    Advance → Prop
  /-- There is no current step, or it is not passed. -/
  | stays : (∀ step, s.currentStep? = some step → (s.scoreOf step).passed = false) →
    AdvanceRun s t now clock ⟨t, s, .ok s.score?⟩
  /-- The step is passed, and another one follows. -/
  | goesOn {lab : Lab} {step : LabStep} : s.lab = some lab →
    lab.steps[s.stepIndex]? = some step → (s.scoreOf step).passed = true →
    s.stepIndex + 1 < lab.steps.length →
    AdvanceRun s t now clock
      ⟨s.notingPass t lab step, s.atNextStep clock, .ok (some (s.scoreOf step))⟩
  /-- The last step is passed. -/
  | completes {lab : Lab} {step : LabStep} : s.lab = some lab →
    lab.steps[s.stepIndex]? = some step → (s.scoreOf step).passed = true →
    s.stepIndex + 1 = lab.steps.length →
    AdvanceRun s t now clock
      ⟨((s.notingPass t lab step).completeLab now s.profile lab).1, s.atNextStep clock,
        ((s.notingPass t lab step).completeLab now s.profile lab).2.map
          fun _ => some (s.scoreOf step)⟩

/-- The next step is the end of the lab if there are no more steps. -/
theorem isComplete_atNextStep {s : Session} {lab : Lab} (hlab : s.lab = some lab)
    (clock : Magnitude) :
    (s.atNextStep clock).isComplete = decide (lab.steps.length ≤ s.stepIndex + 1) := by
  have hnone : lab.steps[s.stepIndex + 1]?.isNone =
      decide (lab.steps.length ≤ s.stepIndex + 1) := by
    rw [Bool.eq_iff_iff, Option.isNone_iff_eq_none, List.getElem?_eq_none_iff, decide_eq_true_iff]
  simpa [isComplete, currentStep?, atNextStep, resetStep, hlab] using hnone

/-- Going on from a passed step. -/
theorem advance_of_passed {s : Session} {t : Tutor} (now : Instant) (clock : Magnitude) {lab : Lab}
    {step : LabStep} (hlab : s.lab = some lab) (hstep : lab.steps[s.stepIndex]? = some step)
    (hpassed : (s.scoreOf step).passed = true) :
    s.advance t now clock =
      if (s.atNextStep clock).isComplete then
        ⟨((s.notingPass t lab step).completeLab now s.profile lab).1, s.atNextStep clock,
          ((s.notingPass t lab step).completeLab now s.profile lab).2.map
            fun _ => some (s.scoreOf step)⟩
      else ⟨s.notingPass t lab step, s.atNextStep clock, .ok (some (s.scoreOf step))⟩ := by
  have hcurrent : s.currentStep? = some step := by simp [currentStep?, hlab, hstep]
  have hscore : s.score? = some (s.scoreOf step) := by simp [score?, hcurrent, scoreOf]
  have hrecord : t.store.recordStep s.profile lab.id step.id
      ⟨(s.scoreOf step).percentage, true⟩ = .ok (s.notingPass t lab step).store :=
    Store.recordStep_of_fits (StepScore.fitsStore_percentage _ _ _)
  unfold advance
  split
  · rename_i lab' step' score hlab' hstep' hscore'
    obtain rfl : lab = lab' := Option.some.inj (hlab.symm.trans hlab')
    obtain rfl : step = step' := Option.some.inj (hcurrent.symm.trans hstep')
    obtain rfl : s.scoreOf step = score := Option.some.inj (hscore.symm.trans hscore')
    simp only [hpassed, hrecord]
    by_cases hend : (s.atNextStep clock).isComplete = true
    · rw [if_pos hend]
      refine (if_pos hend).trans ?_
      split
      · rename_i t' fault hcompleted
        have hcomplete : (s.notingPass t lab step).completeLab now s.profile lab =
            (t', .error fault) := hcompleted
        rw [hcomplete]
        rfl
      · rename_i t' hcompleted
        have hcomplete : (s.notingPass t lab step).completeLab now s.profile lab =
            (t', .ok ()) := hcompleted
        rw [hcomplete]
        rfl
    · rw [if_neg hend]
      exact if_neg hend
  · rename_i hnone
    exact absurd hscore (hnone lab step (s.scoreOf step) hlab hcurrent)

/-- **Going on goes through one of its exits.** -/
theorem advanceRun_advance (s : Session) (t : Tutor) (now : Instant) (clock : Magnitude) :
    AdvanceRun s t now clock (s.advance t now clock) := by
  cases hlab : s.lab with
  | none =>
    have hstep : s.currentStep? = none := by simp [currentStep?, hlab]
    have hadvance : s.advance t now clock = ⟨t, s, .ok s.score?⟩ := by
      simp [advance, hlab, score?, hstep]
    rw [hadvance]
    exact .stays (by simp [hstep])
  | some lab =>
    cases hstep : lab.steps[s.stepIndex]? with
    | none =>
      have hnone : s.currentStep? = none := by simp [currentStep?, hlab, hstep]
      have hadvance : s.advance t now clock = ⟨t, s, .ok s.score?⟩ := by
        simp [advance, hlab, score?, hnone]
      rw [hadvance]
      exact .stays (by simp [hnone])
    | some step =>
      have hcurrent : s.currentStep? = some step := by simp [currentStep?, hlab, hstep]
      have hscore : s.score? = some (s.scoreOf step) := by simp [score?, hcurrent, scoreOf]
      cases hpassed : (s.scoreOf step).passed with
      | false =>
        have hadvance : s.advance t now clock = ⟨t, s, .ok s.score?⟩ := by
          simp [advance, hlab, hcurrent, hscore, hpassed]
        rw [hadvance]
        refine .stays fun step' hstep' => ?_
        rw [hcurrent] at hstep'
        rw [← Option.some.inj hstep', hpassed]
      | true =>
        have hadvance := advance_of_passed (t := t) now clock hlab hstep hpassed
        have hlt : s.stepIndex < lab.steps.length := (List.getElem?_eq_some_iff.1 hstep).1
        -- The next step is the end of the lab exactly if this one was the last.
        by_cases hlast : s.stepIndex + 1 = lab.steps.length
        · rw [isComplete_atNextStep hlab, decide_eq_true (Nat.le_of_eq hlast.symm), if_pos rfl]
            at hadvance
          rw [hadvance]
          exact .completes hlab hstep hpassed hlast
        · have hnext : s.stepIndex + 1 < lab.steps.length := by omega
          rw [isComplete_atNextStep hlab, decide_eq_false (Nat.not_le_of_lt hnext),
            if_neg Bool.false_ne_true] at hadvance
          rw [hadvance]
          exact .goesOn hlab hstep hpassed hnext

/-- **Going on fails** exactly if it is past the last step of a lab and the end of the lab is
refused. -/
theorem advance_eq_error_iff {s : Session} {t : Tutor} {now : Instant} {clock : Magnitude}
    {fault : StoreFault} :
    (s.advance t now clock).score = .error fault ↔
      ∃ lab step, s.lab = some lab ∧ lab.steps[s.stepIndex]? = some step ∧
        (s.scoreOf step).passed = true ∧ s.stepIndex + 1 = lab.steps.length ∧
        t.RefusesEnd now s.profile lab fault := by
  have hrun := s.advanceRun_advance t now clock
  generalize s.advance t now clock = a at hrun
  cases hrun with
  | stays hnone =>
    refine iff_of_false (by simp) ?_
    rintro ⟨lab, step, hlab, hstep, hpassed, -⟩
    have hcurrent : s.currentStep? = some step := by simp [currentStep?, hlab, hstep]
    rw [hnone step hcurrent] at hpassed
    cases hpassed
  | @goesOn lab step hlab hstep hpassed hnext =>
    refine iff_of_false (by simp) ?_
    rintro ⟨lab', -, hlab', -, -, hlast, -⟩
    obtain rfl : lab = lab' := Option.some.inj (hlab.symm.trans hlab')
    omega
  | @completes lab step hlab hstep hpassed hlast =>
    -- Noting the step leaves the reviews as they are.
    have hrefuses : (s.notingPass t lab step).RefusesEnd now s.profile lab fault ↔
        t.RefusesEnd now s.profile lab fault := Iff.rfl
    have hends : ((s.notingPass t lab step).completeLab now s.profile lab).2.map
        (fun _ => some (s.scoreOf step)) = .error fault ↔
          t.RefusesEnd now s.profile lab fault := by
      rw [← hrefuses, ← Tutor.completeLab_eq_error_iff]
      cases ((s.notingPass t lab step).completeLab now s.profile lab).2 <;> simp [Except.map]
    rw [hends]
    constructor
    · exact fun hrefused => ⟨lab, step, hlab, hstep, hpassed, hlast, hrefused⟩
    · rintro ⟨lab', -, hlab', -, -, -, hrefused⟩
      obtain rfl : lab = lab' := Option.some.inj (hlab.symm.trans hlab')
      exact hrefused

/-! ### Lines, undoing and hints -/

/-- Where a learner is: the profile, the lab and the index of the current step. -/
def place (s : Session) : ProfileNumber × Option Lab × Nat := (s.profile, s.lab, s.stepIndex)

/-- The command that a line runs, as root or not. -/
def lineCommand (line : String) : String :=
  if (ParsedLine.ofLine none (Text.trim line)).command = "sudo" then
    (ParsedLine.ofLine none (sudoRest (Text.trim line))).command
  else (ParsedLine.ofLine none (Text.trim line)).command

theorem of_place_eq {s s' : Session} (h : s'.place = s.place) :
    s'.profile = s.profile ∧ s'.lab = s.lab ∧ s'.stepIndex = s.stepIndex := by
  simpa [place] using h

theorem currentStep?_of_place_eq {s s' : Session} (h : s'.place = s.place) :
    s'.currentStep? = s.currentStep? := by
  obtain ⟨-, hlab, hindex⟩ := of_place_eq h
  rw [currentStep?, currentStep?, hlab, hindex]

variable {s : Session} {t : Tutor} {line : String}

/-- **What a command leaves behind**: if it is executed, its tool is marked as used and its
line is tracked; otherwise tutor and tracker are as before. -/
theorem CommandRun.effects {acting : ExecutionContext} {tracked : String} {r : Run}
    (h : CommandRun t s line acting tracked r) :
    r.session.place = s.place ∧
      r.tutor = (if r.endsWell then
        t.markToolUsed s.profile (ParsedLine.ofLine none line).command else t) ∧
      r.session.tracker = if r.endsWell then s.tracker.record tracked else s.tracker := by
  cases h with
  | rejected hstatus => simp [Run.endsWell, hstatus, place, failing]
  | overlong _ => simp [Run.endsWell]
  | executed _ _ _ _ => exact ⟨rfl, rfl, rfl⟩

/-- **What a line leaves behind**: if it executes a command, the tool is marked as used and
the line is tracked; otherwise tutor and tracker are as before. -/
theorem LineRun.effects {r : Run} (h : LineRun t s line r) :
    r.session.place = s.place ∧
      r.tutor = (if !isBuiltIn (Text.trim line) && r.endsWell then
        t.markToolUsed s.profile (lineCommand line) else t) ∧
      r.session.tracker = if !isBuiltIn (Text.trim line) && r.endsWell then
        s.tracker.record (Text.trim line) else s.tracker := by
  cases h with
  | blank _ => simp [Run.endsWell]
  | answered hbuiltIn _ => simp [hbuiltIn, place, typing]
  | refused hstatus => simp [Run.endsWell, hstatus, place, typing, failing]
  | asActor hno hsudo hrun =>
    obtain ⟨hplace, htutor, htracker⟩ := hrun.effects
    rw [hno, Bool.not_false, Bool.true_and, lineCommand, if_neg hsudo]
    exact ⟨hplace, htutor, htracker⟩
  | asRoot hno hsudo hrun =>
    obtain ⟨hplace, htutor, htracker⟩ := hrun.effects
    rw [hno, Bool.not_false, Bool.true_and, lineCommand, if_pos hsudo]
    exact ⟨hplace, htutor, htracker⟩

theorem effects_runLine (t : Tutor) (s : Session) (line : String) :
    (runLine t s line).session.place = s.place ∧
      (runLine t s line).tutor = (if s.executes t line then
        t.markToolUsed s.profile (lineCommand line) else t) ∧
      (runLine t s line).session.tracker = if s.executes t line then
        s.tracker.record (Text.trim line) else s.tracker :=
  (lineRun_runLine t s line).effects

/-- Undoing leaves the learner at the same step, with the same lines tracked. -/
theorem place_undo (s : Session) : s.undo.1.place = s.place ∧ s.undo.1.tracker = s.tracker := by
  unfold undo
  split
  · exact ⟨rfl, rfl⟩
  · split
    · exact ⟨rfl, rfl⟩
    · exact ⟨rfl, rfl⟩

/-- A hint changes nothing but what was revealed. -/
theorem eq_of_revealHint {s s' : Session} {clock : Magnitude} {shown : String}
    (h : s.revealHint clock = .ok (s', shown)) : s' = { s with revealed := s'.revealed } := by
  unfold revealHint at h
  split at h
  · obtain ⟨rfl, -⟩ := Prod.ext_iff.1 (Except.ok.inj h)
    rfl
  · obtain ⟨found, -, h⟩ := bind_eq_ok.1 h
    split at h
    · obtain ⟨line, -, h⟩ := bind_eq_ok.1 h
      obtain ⟨rfl, -⟩ := Prod.ext_iff.1 (Except.ok.inj h)
      rfl
    · obtain ⟨rfl, -⟩ := Prod.ext_iff.1 (Except.ok.inj h)
      rfl

/-- A hint leaves the learner at the same step. -/
theorem place_revealHint {s s' : Session} {clock : Magnitude} {shown : String}
    (h : s.revealHint clock = .ok (s', shown)) : s'.place = s.place := by
  rw [eq_of_revealHint h]
  rfl

end Session

end ClusterTutor
