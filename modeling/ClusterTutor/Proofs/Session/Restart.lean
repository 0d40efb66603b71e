import ClusterTutor.Proofs.Engine.Delta
import ClusterTutor.Proofs.Session.LabRun

/-!
# Starting a lab forgets everything

A session holds a dozen things, and starting a lab sets all of them but the profile. So two
sessions in which the same lab is started differ in the profile and in the reading of the clock
only, whatever happened in them before, and from then on one is the other elsewhere
(`ClusterTutor.Session.elsewhere`).

| request | looks at the clock as | looks at the profile |
|---|---|---|
| a line, undoing, the score | – | – |
| a hint | the time since the step was begun | – |
| going on | – | for the review after the last step |

Of the clock only differences are seen, and they are the same in both sessions if the clocks
run alike. Of the profile nothing is seen but one thing: when the lab is completed, whether
the calendar has the day of the next review, which is the later the more reviews there were
(`ClusterTutor.Session.observe_startLab_iff`). A review is put off by a month at most. As long as
the calendar has a month left (`ClusterTutor.Instant.HasRoom`), nothing at all is seen of what was
before the start (`ClusterTutor.Session.startLab_forgets`).
-/

namespace ClusterTutor

/-! ### What is seen of a session -/

/-- A request to a session with a lab. -/
inductive SessionRequest where
  /-- Run a typed line. -/
  | line (text : String)
  /-- Undo the latest executed line. -/
  | undo
  /-- Score the current step. -/
  | completion
  /-- Show how the hints stand. -/
  | hintStatus
  /-- Reveal the next hint. -/
  | revealHint
  /-- Go on to the next step, if the current one is passed. -/
  | advance

/-- The occasion of a request: the tutor, the time and the clock. -/
structure Occasion where
  /-- The tutor, whom other sessions may have changed. -/
  tutor : Tutor
  /-- The time of day. -/
  now : Instant
  /-- The reading of the clock of the session. -/
  clock : Magnitude

/-- What a session replies. -/
inductive SessionReply where
  /-- What became of a line. -/
  | ran (outcome : Except LineFault LineOutcome)
  /-- Whether something was undone. -/
  | undone (found : Bool)
  /-- The score of the current step, if there is one. -/
  | scored (score : Option StepScore)
  /-- The text of a hint, or about the hints. -/
  | hinted (text : Except HintFault String)
  /-- The score of the step that was current, if there was one. -/
  | advanced (score : Except StoreFault (Option StepScore))

/-- What is seen of a session after a request. -/
structure Observation where
  /-- What it replied. -/
  reply : SessionReply
  /-- The state of the simulated system. -/
  state : Snapshot
  /-- Who is acting. -/
  context : ExecutionContext

/-! ### Room in the calendar -/

/-- **There is room in the calendar** at an instant: the calendar has it, and the latest day to
which a review is put off. -/
structure Instant.HasRoom (now : Instant) : Prop where
  /-- The calendar has the instant. -/
  inCalendar : now.inCalendar = true
  /-- It has the latest day of a review. -/
  latest : (now.addDays? maxReviewInterval).isSome = true

theorem Instant.inCalendar_iff {t : Instant} :
    t.inCalendar = true ↔ 0 ≤ t.micros ∧ t.micros < Calendar.dayCount * microsPerDay := by
  simp [inCalendar]

theorem Instant.isSome_addDays?_iff {t : Instant} {days : Int} :
    (t.addDays? days).isSome = true ↔ inCalendar ⟨t.micros + days * microsPerDay⟩ = true := by
  simp [addDays?]

/-- Where there is room, the calendar has every day up to the latest one. -/
theorem Instant.HasRoom.isSome_addDays? {now : Instant} (h : now.HasRoom) {days : Nat}
    (hdays : days ≤ maxReviewInterval) : (now.addDays? days).isSome = true := by
  obtain ⟨hfirst, -⟩ := inCalendar_iff.1 h.inCalendar
  obtain ⟨-, hlast⟩ := inCalendar_iff.1 (isSome_addDays?_iff.1 h.latest)
  rw [isSome_addDays?_iff, inCalendar_iff]
  simp only [microsPerDay, microsPerSecond] at hlast ⊢
  omega

/-- A review is put off by no more days than there is room for. -/
theorem Store.nextInterval_le (r : ReviewSchedule) (success : Bool) :
    (nextInterval (some r) success).1 ≤ maxReviewInterval := by
  cases success with
  | false => exact Nat.le_of_ble_eq_true rfl
  | true => exact Nat.min_le_right _ _

/-- Where there is room, the calendar has the day of the next review, whatever is known of the
reviews before. -/
theorem Store.isSome_nextReview? {now : Instant} (h : now.HasRoom) (s : Store)
    (profile : ProfileNumber) (family : String) :
    (s.nextReview? now profile family).isSome = true := by
  rw [nextReview?, Option.isSome_map]
  cases s.schedule? profile family with
  | none => exact h.isSome_addDays? (Nat.le_of_ble_eq_true rfl)
  | some r => exact h.isSome_addDays? (nextInterval_le r true)

namespace Session

/-- The session after a request, with its reply. Nothing comes of a hint that cannot be
revealed. -/
def respond (s : Session) (m : Occasion) : SessionRequest → Session × SessionReply
  | .line text => ((runLine m.tutor s text).session, .ran (runLine m.tutor s text).outcome)
  | .undo => (s.undo.1, .undone s.undo.2)
  | .completion => (s, .scored s.score?)
  | .hintStatus => (s, .hinted (s.hintLine m.clock))
  | .revealHint =>
    match s.revealHint m.clock with
    | .ok (s', text) => (s', .hinted (.ok text))
    | .error fault => (s, .hinted (.error fault))
  | .advance =>
    let r := s.advance m.tutor m.now m.clock
    (r.session, .advanced r.score)

/-- **What is seen of a session** over several requests. -/
def observe (s : Session) : List (SessionRequest × Occasion) → List Observation
  | [] => []
  | (q, m) :: rs =>
    let (s', reply) := s.respond m q
    ⟨reply, s'.state, s'.context⟩ :: s'.observe rs

/-- **The same session elsewhere**: of another profile, in which the current step was begun
at another reading of the clock. -/
def elsewhere (s : Session) (profile : ProfileNumber) (clock : Magnitude) : Session :=
  { s with profile, stepStartedAt := clock }

section Elsewhere

variable {s : Session} {t t' : Tutor} {profile : ProfileNumber} {clock : Magnitude}

@[simp] theorem state_elsewhere : (s.elsewhere profile clock).state = s.state := rfl

@[simp] theorem context_elsewhere : (s.elsewhere profile clock).context = s.context := rfl

@[simp] theorem currentStep?_elsewhere :
    (s.elsewhere profile clock).currentStep? = s.currentStep? := rfl

/-- **A lab that is started in any two sessions is one session elsewhere.** -/
theorem startLab_eq_elsewhere (s s' : Session) (h : t'.catalogue = t.catalogue) (lab : Lab)
    (c c' : Magnitude) :
    s'.startLab t' lab c' = (s.startLab t lab c).elsewhere s'.profile c' := by
  simp [startLab, resetStep, elsewhere, h]

/-! ### Requests elsewhere -/

theorem runCommand_elsewhere (h : t'.catalogue = t.catalogue) (line : String)
    (acting : ExecutionContext) (tracked : String) :
    (runCommand t' (s.elsewhere profile clock) line acting tracked).session =
        (runCommand t s line acting tracked).session.elsewhere profile clock ∧
      (runCommand t' (s.elsewhere profile clock) line acting tracked).outcome =
        (runCommand t s line acting tracked).outcome := by
  cases hd : t.catalogue.get? (ParsedLine.ofLine none line).command with
  | none => simp [runCommand, h, hd, failed, elsewhere]
  | some d =>
    cases hword : rejectedWord? t.catalogue d (ParsedLine.ofLine d.schema? line) with
    | some o => simp [runCommand, h, hd, hword, failed, elsewhere]
    | none =>
      cases hi : Invocation.ofLine d (ParsedLine.ofLine d.schema? line) with
      | error fault => simp [runCommand, h, hd, hword, hi]
      | ok i =>
        rcases hatt : s.engine.attempt acting (ParsedLine.ofLine none line).command i with
          ⟨engine, fault | denial | x⟩
        · simp [runCommand, h, hd, hword, hi, hatt, elsewhere]
        · simp [runCommand, h, hd, hword, hi, hatt, failed, elsewhere]
        · simp [runCommand, h, hd, hword, hi, hatt, afterExecution, contextAfter, elsewhere]

theorem runTrimmed_elsewhere (h : t'.catalogue = t.catalogue) (line : String) :
    (runTrimmed t' (s.elsewhere profile clock) line).session =
        (runTrimmed t s line).session.elsewhere profile clock ∧
      (runTrimmed t' (s.elsewhere profile clock) line).outcome =
        (runTrimmed t s line).outcome := by
  unfold runTrimmed
  rw [h, context_elsewhere]
  dsimp only
  split_ifs
  · exact ⟨rfl, rfl⟩
  · exact ⟨rfl, rfl⟩
  · exact ⟨rfl, rfl⟩
  · exact ⟨rfl, rfl⟩
  · exact ⟨rfl, rfl⟩
  · exact runCommand_elsewhere h _ _ _
  · exact runCommand_elsewhere h _ _ _

/-- **A line has the same outcome elsewhere**, if the same commands are known. -/
theorem runLine_elsewhere (h : t'.catalogue = t.catalogue) (line : String) :
    (runLine t' (s.elsewhere profile clock) line).session =
        (runLine t s line).session.elsewhere profile clock ∧
      (runLine t' (s.elsewhere profile clock) line).outcome = (runLine t s line).outcome := by
  by_cases hblank : Text.trim line = ""
  · simp [runLine, hblank, answered]
  · have hrun : ∀ (u : Tutor) (r : Session),
        runLine u r line = runTrimmed u (r.typing line) (Text.trim line) :=
      fun u r => by simp [runLine, hblank, typing]
    have htyping : (s.elsewhere profile clock).typing line =
        (s.typing line).elsewhere profile clock := rfl
    rw [hrun, hrun, htyping]
    exact runTrimmed_elsewhere h _

theorem undo_elsewhere :
    (s.elsewhere profile clock).undo = (s.undo.1.elsewhere profile clock, s.undo.2) := by
  have hengine : (s.elsewhere profile clock).engine = s.engine := rfl
  have hpast : (s.elsewhere profile clock).pastContexts = s.pastContexts := rfl
  unfold undo
  rw [hengine, hpast]
  rcases s.engine.undo with ⟨engine, _ | context⟩
  · rfl
  · cases s.pastContexts <;> rfl

variable {c c' : Magnitude} (hclock : c'.sub clock = c.sub s.stepStartedAt)

include hclock

theorem activity_elsewhere : (s.elsewhere profile clock).activity c' = s.activity c := by
  simp [activity, elsewhere, hclock]

/-- **The hints stand the same elsewhere**, if as much time has passed. -/
theorem hintLine_elsewhere : (s.elsewhere profile clock).hintLine c' = s.hintLine c := by
  simp [hintLine, activity_elsewhere hclock]

theorem revealHint_elsewhere :
    (s.elsewhere profile clock).revealHint c' =
      (s.revealHint c).map fun r => (r.1.elsewhere profile clock, r.2) := by
  unfold revealHint
  rw [currentStep?_elsewhere, activity_elsewhere hclock, hintLine_elsewhere hclock]
  cases s.currentStep? with
  | none => rfl
  | some step =>
    dsimp only
    rcases Hint.revealNext step.hints (s.activity c) with fault | ⟨_ | hint, a⟩
    · rfl
    · cases s.hintLine c <;> rfl
    · rfl

end Elsewhere

/-! ### Going on elsewhere -/

theorem advance_of_not_passed {s : Session} (t : Tutor) (now : Instant) (clock : Magnitude)
    (h : ∀ step, s.currentStep? = some step → (s.scoreOf step).passed = false) :
    s.advance t now clock = ⟨t, s, .ok s.score?⟩ := by
  have hexits := advanceRun_advance s t now clock
  generalize s.advance t now clock = r at hexits ⊢
  cases hexits with
  | stays _ => rfl
  | @goesOn lab step hlab hstep hpassed _ =>
    have hfailed := h step (by simp [currentStep?, hlab, hstep])
    rw [hpassed] at hfailed
    cases hfailed
  | @completes lab step hlab hstep hpassed _ =>
    have hfailed := h step (by simp [currentStep?, hlab, hstep])
    rw [hpassed] at hfailed
    cases hfailed

/-- **Both calendars have the day of the next review, or neither has**, if going on completes
a lab of which the gate can be recorded. -/
def SameReviewDay (s : Session) (profile : ProfileNumber) (m m' : Occasion) : Prop :=
  ∀ lab step, s.lab = some lab → lab.steps[s.stepIndex]? = some step →
    (s.scoreOf step).passed = true → s.stepIndex + 1 = lab.steps.length →
    fitsStore lab.tier = true →
      ((m.tutor.store.nextReview? m.now s.profile lab.family).isSome ↔
        (m'.tutor.store.nextReview? m'.now profile lab.family).isSome)

/-- Completing a lab has the same outcome for two tutors if both calendars have the day of the
review or neither has, or the gate is refused. -/
theorem completeLab_congr {t t' : Tutor} {now now' : Instant} {profile profile' : ProfileNumber}
    {lab : Lab} :
    (t'.completeLab now' profile' lab).2 = (t.completeLab now profile lab).2 ↔
      (fitsStore lab.tier = true → ((t.store.nextReview? now profile lab.family).isSome ↔
        (t'.store.nextReview? now' profile' lab.family).isSome)) := by
  rw [Tutor.completeLab_eq, Tutor.completeLab_eq]
  generalize (t.store.nextReview? now profile lab.family).isSome = day
  generalize (t'.store.nextReview? now' profile' lab.family).isSome = day'
  by_cases hfits : fitsStore lab.tier = true
  · cases day <;> cases day' <;> simp [hfits]
  · simp [hfits]

theorem map_const_inj {ε α : Type} {a : α} {x y : Except ε Unit} :
    (x.map fun _ => a) = (y.map fun _ => a) ↔ x = y := by
  cases x <;> cases y <;> simp [Except.map]

section Advance

variable {s : Session} (profile : ProfileNumber) (clock : Magnitude) (m m' : Occasion)

/-- Going on from a passed step elsewhere. -/
theorem advance_elsewhere_of_passed {lab : Lab} {step : LabStep} (hlab : s.lab = some lab)
    (hstep : lab.steps[s.stepIndex]? = some step) (hpassed : (s.scoreOf step).passed = true) :
    ((s.elsewhere profile clock).advance m'.tutor m'.now m'.clock).session =
        (s.advance m.tutor m.now m.clock).session.elsewhere profile m'.clock ∧
    (s.advance m.tutor m.now m.clock).session.stepStartedAt = m.clock ∧
    (((s.elsewhere profile clock).advance m'.tutor m'.now m'.clock).score =
        (s.advance m.tutor m.now m.clock).score ↔ s.SameReviewDay profile m m') := by
  have hcomplete := isComplete_atNextStep hlab m.clock
  have hcomplete' : ((s.elsewhere profile clock).atNextStep m'.clock).isComplete =
      decide (lab.steps.length ≤ s.stepIndex + 1) := isComplete_atNextStep hlab m'.clock
  have hadvance' := advance_of_passed (s := s.elsewhere profile clock) (t := m'.tutor) m'.now
    m'.clock hlab hstep hpassed
  rw [advance_of_passed (t := m.tutor) m.now m.clock hlab hstep hpassed, hadvance', hcomplete,
    hcomplete']
  by_cases hend : lab.steps.length ≤ s.stepIndex + 1
  · simp only [hend, decide_true, if_true]
    refine ⟨rfl, rfl, ?_⟩
    have hscore : (s.elsewhere profile clock).scoreOf step = s.scoreOf step := rfl
    rw [hscore, map_const_inj]
    refine completeLab_congr.trans
      ⟨fun hday lab' step' hlab' _ _ _ hfits => ?_, fun hday hfits => ?_⟩
    · obtain rfl : lab = lab' := Option.some.inj (hlab.symm.trans hlab')
      exact hday hfits
    · have hlt : s.stepIndex < lab.steps.length := (List.getElem?_eq_some_iff.1 hstep).1
      exact hday lab step hlab hstep hpassed (by omega) hfits
  · simp only [hend, decide_false, Bool.false_eq_true, if_false]
    refine ⟨rfl, rfl, iff_of_true rfl ?_⟩
    intro lab' step' hlab' _ _ hlast _
    obtain rfl : lab = lab' := Option.some.inj (hlab.symm.trans hlab')
    exact absurd hlast.ge hend

/-- **Going on elsewhere** leads to the same step, begun when it is begun here, and has the same
outcome exactly if both calendars have the day of the review or neither has. -/
theorem advance_elsewhere :
    (∃ clock', ((s.elsewhere profile clock).advance m'.tutor m'.now m'.clock).session =
        (s.advance m.tutor m.now m.clock).session.elsewhere profile clock' ∧
      (clock' = clock ∧
          (s.advance m.tutor m.now m.clock).session.stepStartedAt = s.stepStartedAt ∨
        clock' = m'.clock ∧
          (s.advance m.tutor m.now m.clock).session.stepStartedAt = m.clock)) ∧
    (((s.elsewhere profile clock).advance m'.tutor m'.now m'.clock).score =
        (s.advance m.tutor m.now m.clock).score ↔ s.SameReviewDay profile m m') := by
  -- A step that is not passed is not left, and so its beginning stays.
  by_cases hpassed : ∃ step, s.currentStep? = some step ∧ (s.scoreOf step).passed = true
  · obtain ⟨step, hcurrent, hpassed⟩ := hpassed
    obtain ⟨lab, hlab, hstep⟩ := Option.bind_eq_some_iff.1 hcurrent
    obtain ⟨hsession, hstarted, hscore⟩ :=
      advance_elsewhere_of_passed profile clock m m' hlab hstep hpassed
    exact ⟨⟨m'.clock, hsession, Or.inr ⟨rfl, hstarted⟩⟩, hscore⟩
  · have hstays : ∀ step, s.currentStep? = some step → (s.scoreOf step).passed = false := by
      intro step hstep
      by_contra hnot
      exact hpassed ⟨step, hstep, by simpa using hnot⟩
    have hsame : s.SameReviewDay profile m m' := by
      intro lab step hlab hstep hpass
      exact absurd ⟨step, by simp [currentStep?, hlab, hstep], hpass⟩ hpassed
    have hhere := advance_of_not_passed m.tutor m.now m.clock hstays
    have helsewhere : (s.elsewhere profile clock).advance m'.tutor m'.now m'.clock =
        ⟨m'.tutor, s.elsewhere profile clock, .ok s.score?⟩ :=
      advance_of_not_passed m'.tutor m'.now m'.clock hstays
    rw [hhere, helsewhere]
    exact ⟨⟨clock, rfl, Or.inl ⟨rfl, rfl⟩⟩, iff_of_true rfl hsame⟩

end Advance

/-! ### Requests in two sessions -/

/-- **The review days are the same** over several requests: whenever going on completes a lab,
both calendars have the day of the review, or neither has. -/
def SameReviewDays (s : Session) (profile : ProfileNumber) :
    List (SessionRequest × Occasion × Occasion) → Prop
  | [] => True
  | (q, m, m') :: rs =>
    (q = .advance → s.SameReviewDay profile m m') ∧
      (s.respond m q).1.SameReviewDays profile rs

section Respond

variable {s : Session} {profile : ProfileNumber} {clock : Magnitude} {m m' : Occasion}

/-- What does the same elsewhere leaves the beginning of the step alone. -/
theorem stepStartedAt_of_elsewhere {f : Session → Session}
    (h : ∀ profile clock, f (s.elsewhere profile clock) = (f s).elsewhere profile clock) :
    (f s).stepStartedAt = s.stepStartedAt := by
  have hhere : f s = (f s).elsewhere s.profile s.stepStartedAt := h s.profile s.stepStartedAt
  rw [hhere]
  rfl

/-- **One request elsewhere** leads to the same session elsewhere, begun at the same time after
the other one, and has the same reply exactly if the review days are the same. -/
theorem respond_elsewhere (hcatalogue : m'.tutor.catalogue = m.tutor.catalogue)
    (helapsed : m'.clock.sub clock = m.clock.sub s.stepStartedAt) (q : SessionRequest) :
    (∃ clock', ((s.elsewhere profile clock).respond m' q).1 =
        (s.respond m q).1.elsewhere profile clock' ∧
      (clock' = clock ∧ (s.respond m q).1.stepStartedAt = s.stepStartedAt ∨
        clock' = m'.clock ∧ (s.respond m q).1.stepStartedAt = m.clock)) ∧
    (((s.elsewhere profile clock).respond m' q).2 = (s.respond m q).2 ↔
      (q = .advance → s.SameReviewDay profile m m')) := by
  cases q with
  | line text =>
    have hstarted := stepStartedAt_of_elsewhere (s := s)
      (f := fun s => (runLine m.tutor s text).session) fun _ _ => (runLine_elsewhere rfl text).1
    simp only [respond]
    refine ⟨⟨clock, (runLine_elsewhere hcatalogue text).1, Or.inl ⟨rfl, hstarted⟩⟩, ?_⟩
    simp [(runLine_elsewhere hcatalogue text).2]
  | undo =>
    have hstarted := stepStartedAt_of_elsewhere (s := s) (f := fun s => s.undo.1)
      fun _ _ => by rw [undo_elsewhere]
    refine ⟨⟨clock, ?_, Or.inl ⟨rfl, hstarted⟩⟩, ?_⟩
    · simp [respond, undo_elsewhere]
    · simp [respond, undo_elsewhere]
  | completion =>
    refine ⟨⟨clock, rfl, Or.inl ⟨rfl, rfl⟩⟩, ?_⟩
    have hscore : (s.elsewhere profile clock).score? = s.score? := rfl
    simp [respond, hscore]
  | hintStatus =>
    refine ⟨⟨clock, rfl, Or.inl ⟨rfl, rfl⟩⟩, ?_⟩
    simp [respond, hintLine_elsewhere helapsed]
  | revealHint =>
    have hreveal : (s.elsewhere profile clock).revealHint m'.clock =
        (s.revealHint m.clock).map fun r => (r.1.elsewhere profile clock, r.2) :=
      revealHint_elsewhere helapsed
    cases hhere : s.revealHint m.clock with
    | error fault =>
      rw [hhere] at hreveal
      have helsewhere : (s.elsewhere profile clock).revealHint m'.clock = .error fault := hreveal
      refine ⟨⟨clock, ?_, Or.inl ⟨rfl, ?_⟩⟩, ?_⟩
      · simp [respond, hhere, helsewhere]
      · simp [respond, hhere]
      · simp [respond, hhere, helsewhere]
    | ok r =>
      rw [hhere] at hreveal
      have helsewhere : (s.elsewhere profile clock).revealHint m'.clock =
          .ok (r.1.elsewhere profile clock, r.2) := hreveal
      have hstarted : r.1.stepStartedAt = s.stepStartedAt := by
        have hself : s.revealHint m.clock = (s.revealHint m.clock).map fun r =>
            (r.1.elsewhere s.profile s.stepStartedAt, r.2) := revealHint_elsewhere rfl
        have hsame : s.revealHint m.clock =
            .ok (r.1.elsewhere s.profile s.stepStartedAt, r.2) := by
          rw [hself, hhere]
          rfl
        obtain ⟨hsession, -⟩ := Prod.ext_iff.1 (Except.ok.inj (hhere.symm.trans hsame))
        rw [hsession]
        rfl
      refine ⟨⟨clock, ?_, Or.inl ⟨rfl, ?_⟩⟩, ?_⟩
      · simp [respond, hhere, helsewhere]
      · simp [respond, hhere, hstarted]
      · simp [respond, hhere, helsewhere]
  | advance =>
    obtain ⟨hsession, hscore⟩ := advance_elsewhere (s := s) profile clock m m'
    refine ⟨hsession, ?_⟩
    simp [respond, hscore]

end Respond

/-- **A session elsewhere is seen as the same exactly if the review days are the same**, where
the clocks run alike and the same commands are known. -/
theorem observe_elsewhere {s : Session} {profile : ProfileNumber} {clock : Magnitude}
    {rs : List (SessionRequest × Occasion × Occasion)}
    (hcatalogue : ∀ r ∈ rs, r.2.2.tutor.catalogue = r.2.1.tutor.catalogue)
    (helapsed : ∀ r ∈ rs, r.2.2.clock.sub clock = r.2.1.clock.sub s.stepStartedAt)
    (hclock : rs.Pairwise fun r r' =>
      r'.2.2.clock.sub r.2.2.clock = r'.2.1.clock.sub r.2.1.clock) :
    (s.elsewhere profile clock).observe (rs.map fun r => (r.1, r.2.2)) =
        s.observe (rs.map fun r => (r.1, r.2.1)) ↔ s.SameReviewDays profile rs := by
  induction rs generalizing s clock with
  | nil => simp [observe, SameReviewDays]
  | cons r rs ih =>
    obtain ⟨q, m, m'⟩ := r
    obtain ⟨hcatalogueHead, hcatalogueTail⟩ := List.forall_mem_cons.1 hcatalogue
    obtain ⟨helapsedHead, helapsedTail⟩ := List.forall_mem_cons.1 helapsed
    obtain ⟨hclockHead, hclockTail⟩ := List.pairwise_cons.1 hclock
    obtain ⟨⟨clock', hsession, hstarted⟩, hreply⟩ :
        (∃ clock', ((s.elsewhere profile clock).respond m' q).1 =
            (s.respond m q).1.elsewhere profile clock' ∧
          (clock' = clock ∧ (s.respond m q).1.stepStartedAt = s.stepStartedAt ∨
            clock' = m'.clock ∧ (s.respond m q).1.stepStartedAt = m.clock)) ∧
        (((s.elsewhere profile clock).respond m' q).2 = (s.respond m q).2 ↔
          (q = .advance → s.SameReviewDay profile m m')) :=
      respond_elsewhere hcatalogueHead helapsedHead q
    -- Either the step goes on, and so does the time since it was begun, or a step is begun at
    -- this moment, and the clocks have run alike since.
    have helapsed' : ∀ r ∈ rs,
        r.2.2.clock.sub clock' = r.2.1.clock.sub (s.respond m q).1.stepStartedAt := by
      intro r hr
      rcases hstarted with ⟨hsame, hstep⟩ | ⟨hnew, hstep⟩
      · rw [hsame, hstep]
        exact helapsedTail r hr
      · rw [hnew, hstep]
        exact hclockHead r hr
    have hrest := ih hcatalogueTail helapsed' hclockTail
    simp only [List.map_cons, observe, List.cons.injEq, Observation.mk.injEq, hsession,
      state_elsewhere, context_elsewhere, and_true, hrest, hreply, SameReviewDays]

/-- **What is seen of a started lab.** Let the same lab be started in any two sessions in which the
same commands are known and the clocks run alike. Then whatever is asked of both, what is seen of
them is the same exactly if, whenever the lab is completed, both calendars have the day of the
next review or neither has. -/
theorem observe_startLab_iff (s s' : Session) (lab : Lab) (m m' : Occasion)
    (rs : List (SessionRequest × Occasion × Occasion))
    (hcatalogue : ∀ r ∈ (m, m') :: rs.map Prod.snd, r.2.tutor.catalogue = r.1.tutor.catalogue)
    (hclock : ((m, m') :: rs.map Prod.snd).Pairwise fun r r' =>
      r'.2.clock.sub r.2.clock = r'.1.clock.sub r.1.clock) :
    let here := s.startLab m.tutor lab m.clock
    let there := s'.startLab m'.tutor lab m'.clock
    there.observe (rs.map fun r => (r.1, r.2.2)) = here.observe (rs.map fun r => (r.1, r.2.1)) ↔
      here.SameReviewDays s'.profile rs := by
  intro here there
  obtain ⟨hstartCatalogue, hcatalogue⟩ := List.forall_mem_cons.1 hcatalogue
  obtain ⟨hstartClock, hclock⟩ := List.pairwise_cons.1 hclock
  have hthere : there = here.elsewhere s'.profile m'.clock :=
    startLab_eq_elsewhere s s' hstartCatalogue lab m.clock m'.clock
  rw [hthere]
  refine observe_elsewhere ?_ ?_ (List.pairwise_map.1 hclock)
  · intro r hr
    exact hcatalogue r.2 (List.mem_map_of_mem hr)
  · intro r hr
    exact hstartClock r.2 (List.mem_map_of_mem hr)

/-- With room in the calendar at all times, both calendars have the day of every review. -/
theorem sameReviewDays_of_hasRoom {s : Session} {profile : ProfileNumber}
    {rs : List (SessionRequest × Occasion × Occasion)}
    (hroom : ∀ r ∈ rs, r.2.1.now.HasRoom ∧ r.2.2.now.HasRoom) : s.SameReviewDays profile rs := by
  induction rs generalizing s with
  | nil => exact trivial
  | cons r rs ih =>
    obtain ⟨q, m, m'⟩ := r
    obtain ⟨⟨hhere, hthere⟩, hroom⟩ := List.forall_mem_cons.1 hroom
    refine ⟨fun _ lab step _ _ _ _ _ => ?_, ih hroom⟩
    exact iff_of_true (Store.isSome_nextReview? hhere _ _ _)
      (Store.isSome_nextReview? hthere _ _ _)

/-- **Starting a lab forgets everything.** Let the same lab be started in any two sessions in which
the same commands are known and the clocks run alike, and let there be room in the calendar
whenever something is asked. Then whatever is asked of both, the same is seen of them. Right after
the start they have the same state and context, and the state is that of the machines, overlaid
field by field with what the lab says. -/
theorem startLab_forgets (s s' : Session) (lab : Lab) (m m' : Occasion)
    (rs : List (SessionRequest × Occasion × Occasion))
    (hcatalogue : ∀ r ∈ (m, m') :: rs.map Prod.snd, r.2.tutor.catalogue = r.1.tutor.catalogue)
    (hclock : ((m, m') :: rs.map Prod.snd).Pairwise fun r r' =>
      r'.2.clock.sub r.2.clock = r'.1.clock.sub r.1.clock)
    (hroom : ∀ r ∈ rs, r.2.1.now.HasRoom ∧ r.2.2.now.HasRoom) :
    let here := s.startLab m.tutor lab m.clock
    let there := s'.startLab m'.tutor lab m'.clock
    there.observe (rs.map fun r => (r.1, r.2.2)) = here.observe (rs.map fun r => (r.1, r.2.1)) ∧
    there.state = here.state ∧ there.context = here.context ∧
    (∀ domain field, here.state.value? domain field =
      (lab.initialState.value? domain field).or (Content.machines.value? domain field)) ∧
    ∀ domain, domain ∈ here.state.keys ↔
      domain ∈ lab.initialState.keys ∨ domain ∈ Content.machines.keys := by
  intro here there
  have hseen := (observe_startLab_iff s s' lab m m' rs hcatalogue hclock).2
    (sameReviewDays_of_hasRoom hroom)
  exact ⟨hseen, rfl, rfl, Snapshot.value?_overlay _ _, Snapshot.mem_keys_overlay _ _⟩

/-- A learner who has looked around first, by another clock, sees the same of the lab as one who
has not. -/
theorem tour_seen_alike :
    let here := (start LabRun.guide 1 (.whole 0)).startLab LabRun.guide (LabRun.tour 2) (.whole 1)
    let other := (start LabRun.guide 2 (.whole 7)).calls
      [(LabRun.guide, .line "nvtop"), (LabRun.guide, .line "nvtp")]
    let there := other.startLab LabRun.guide (LabRun.tour 2) (.whole 9)
    there.observe [(.line "nvtop", ⟨LabRun.guide, .year2024, .whole 12⟩),
        (.advance, ⟨LabRun.guide, .year2024, .whole 13⟩)] =
      here.observe [(.line "nvtop", ⟨LabRun.guide, .year2024, .whole 4⟩),
        (.advance, ⟨LabRun.guide, .year2024, .whole 5⟩)] := by
  intro here other there
  have hroom : Instant.year2024.HasRoom := ⟨by decide, by decide⟩
  exact (startLab_forgets (start LabRun.guide 1 (.whole 0)) other (LabRun.tour 2)
    ⟨LabRun.guide, .year2024, .whole 1⟩ ⟨LabRun.guide, .year2024, .whole 9⟩
    [(.line "nvtop", ⟨LabRun.guide, .year2024, .whole 4⟩, ⟨LabRun.guide, .year2024, .whole 12⟩),
      (.advance, ⟨LabRun.guide, .year2024, .whole 5⟩, ⟨LabRun.guide, .year2024, .whole 13⟩)]
    (by simp) (by decide) (by simpa using hroom)).1

end Session

end ClusterTutor
