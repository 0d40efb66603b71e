import ClusterTutor.Proofs.Session.Steps
import ClusterTutor.Proofs.Session.Traces

/-!
# A lab is passed step by step

After a lab was started, a learner types lines, undoes some, asks for hints and goes on. This
module follows the learner through any such calls, with a record of the lines that were
executed since the current step became current (`ClusterTutor.LabRun.executed`).

* A learner in a lab has the lab, is at one of its steps or at its end, and has tracked what
  the record says; every call keeps it so (`ClusterTutor.LabRun.InLab.call`). A step is
  therefore passed by the lines executed in it, and by no others
  (`ClusterTutor.LabRun.InLab.passed_scoreOf_iff`).
* A call either stays at the step and records nothing of steps, gates and reviews, or is going
  on from a step that is passed (`ClusterTutor.LabRun.InLab.call_cases`).
* A lab comes to its end once (`ClusterTutor.LabRun.InLab.completions_eq`). What is recorded
  then is `ClusterTutor.LabRun.RecordsEnd`: a lab may be of any tier, and if the store cannot
  hold the number, nothing is.
-/

namespace ClusterTutor

/-! ### Labs that were read -/

/-- **What is checked of a step when it is read**: something is expected, and the passing score is a
percentage. -/
structure LabStep.Accepted (step : LabStep) : Prop where
  /-- Something is expected. -/
  expected_ne_nil : step.expected ≠ []
  /-- The passing score is not negative. -/
  passingScore_nonneg : 0 ≤ step.passingScore
  /-- It is no more than all. -/
  passingScore_le : step.passingScore ≤ 100

theorem LabStep.accepted_of_ofValue {lab : String} {v : Value} {step : LabStep}
    (h : LabStep.ofValue lab v = .ok step) : step.Accepted := by
  obtain ⟨parts, -, h⟩ := bind_eq_ok.1 h
  obtain ⟨lines, -, h⟩ := bind_eq_ok.1 h
  dsimp only at h
  split at h
  · obtain ⟨id, -, h⟩ := bind_eq_ok.1 h
    exact (throw_bind_ne_ok.1 h).elim
  · rename_i hexpected
    obtain ⟨_, -, h⟩ := bind_eq_ok.1 h
    obtain ⟨passingScore, -, h⟩ := bind_eq_ok.1 h
    split at h
    · rename_i hscore
      obtain ⟨idField, -, h⟩ := bind_eq_ok.1 h
      obtain ⟨id, -, h⟩ := bind_eq_ok.1 h
      obtain ⟨titleField, -, h⟩ := bind_eq_ok.1 h
      obtain ⟨title, -, h⟩ := bind_eq_ok.1 h
      obtain ⟨hintsField, -, h⟩ := bind_eq_ok.1 h
      obtain ⟨hints, -, h⟩ := bind_eq_ok.1 h
      obtain ⟨description, -, h⟩ := bind_eq_ok.1 h
      obtain rfl := Except.ok.inj h
      exact ⟨by simpa using hexpected, hscore.1, hscore.2⟩
    · obtain ⟨id, -, h⟩ := bind_eq_ok.1 h
      exact (throw_bind_ne_ok.1 h).elim

/-- **Every step of a lab that was read was checked.** -/
theorem Lab.accepted_of_ofValue {v : Value} {lab : Lab} (h : Lab.ofValue v = .ok lab) :
    ∀ step ∈ lab.steps, step.Accepted := by
  obtain ⟨idField, -, h⟩ := bind_eq_ok.1 h
  obtain ⟨id, -, h⟩ := bind_eq_ok.1 h
  obtain ⟨parts, -, h⟩ := bind_eq_ok.1 h
  obtain ⟨steps, hsteps, h⟩ := bind_eq_ok.1 h
  dsimp only at h
  split at h
  · obtain ⟨state, -, h⟩ := bind_eq_ok.1 h
    split at h
    · obtain ⟨titleField, -, h⟩ := bind_eq_ok.1 h
      obtain ⟨title, -, h⟩ := bind_eq_ok.1 h
      obtain ⟨familyField, -, h⟩ := bind_eq_ok.1 h
      obtain ⟨family, -, h⟩ := bind_eq_ok.1 h
      obtain ⟨tierField, -, h⟩ := bind_eq_ok.1 h
      obtain ⟨tier, -, h⟩ := bind_eq_ok.1 h
      obtain ⟨description, -, h⟩ := bind_eq_ok.1 h
      obtain ⟨initialState, -, h⟩ := bind_eq_ok.1 h
      obtain rfl := Except.ok.inj h
      intro step hstep
      obtain ⟨part, -, hpart⟩ := exists_of_mem_mapM hsteps hstep
      exact LabStep.accepted_of_ofValue hpart
    · simp at h
  · exact (throw_bind_ne_ok.1 h).elim

/-- Labs that were read were read each on its own. -/
theorem Lab.exists_ofValue_of_listOf {vs : List Value} {labs : OrderedMap String Lab}
    (h : Lab.listOf vs = .ok labs) {id : String} {lab : Lab} (hlab : labs.get? id = some lab) :
    lab.id = id ∧ ∃ v, Lab.ofValue v = .ok lab := by
  refine foldlM_induction (P := fun labs : OrderedMap String Lab => ∀ id lab,
    labs.get? id = some lab → lab.id = id ∧ ∃ v, Lab.ofValue v = .ok lab) ?_
    (fun earlier v later hread hstep => ?_) h id lab hlab
  · intro id lab hlab
    simp at hlab
  · obtain ⟨read, hv, hstep⟩ := bind_eq_ok.1 hstep
    split at hstep
    · exact (throw_bind_ne_ok.1 hstep).elim
    · obtain rfl := Except.ok.inj hstep
      intro id lab hlab
      rw [OrderedMap.get?_insert] at hlab
      split at hlab
      · rename_i hid
        obtain rfl := Option.some.inj hlab
        exact ⟨hid, v, hv⟩
      · exact hread id lab hlab

/-! ### Runs -/

/-- A call of a session in a lab. -/
inductive LabCall where
  /-- Run a typed line. -/
  | line (text : String)
  /-- Undo the latest executed line. -/
  | undo
  /-- Reveal the next hint. -/
  | revealHint (clock : Magnitude)
  /-- Say how the hints stand. -/
  | hintStatus (clock : Magnitude)
  /-- Go on to the next step, if the current one is passed. -/
  | advance (now : Instant) (clock : Magnitude)

/-- A session in a lab, with its tutor and with what was executed in the current step. -/
structure LabRun where
  /-- The tutor. -/
  tutor : Tutor
  /-- The session. -/
  session : Session
  /-- The lines that were executed since the current step became current. -/
  executed : List String

namespace LabRun

/-- The start of a lab. -/
def start (t : Tutor) (s : Session) (lab : Lab) (clock : Magnitude) : LabRun where
  tutor := t
  session := s.startLab t lab clock
  executed := []

/-- A lab after a call. Asking how the hints stand changes nothing, and nothing comes of a
hint that cannot be revealed. -/
def call (r : LabRun) : LabCall → LabRun
  | .line text =>
    let run := Session.runLine r.tutor r.session text
    { tutor := run.tutor
      session := run.session
      executed := if r.session.executes r.tutor text then r.executed ++ [text] else r.executed }
  | .undo => { r with session := r.session.undo.1 }
  | .revealHint clock =>
    match r.session.revealHint clock with
    | .ok (session, _) => { r with session }
    | .error _ => r
  | .hintStatus _ => r
  | .advance now clock =>
    let a := r.session.advance r.tutor now clock
    { tutor := a.tutor
      session := a.session
      executed := if a.session.stepIndex = r.session.stepIndex then r.executed else [] }

/-- A lab after several calls. -/
def run (r : LabRun) (cs : List LabCall) : LabRun :=
  cs.foldl call r

/-- How many of the expected lines of a step were executed, in any spacing, since the step
became current. -/
def matched (r : LabRun) (step : LabStep) : Nat :=
  step.expected.countP fun e => r.executed.any fun l => Text.squeeze l == Text.squeeze e

/-- **The current step of a lab is passed** once enough of its expected lines were executed. -/
def Passes (r : LabRun) (step : LabStep) : Prop :=
  step.passingScore * step.expected.length ≤ r.matched step * 100

instance (r : LabRun) (step : LabStep) : Decidable (r.Passes step) :=
  inferInstanceAs (Decidable (_ ≤ _))

/-- How often the lab comes to its end in some calls. -/
def completions (r : LabRun) : List LabCall → Nat
  | [] => 0
  | c :: cs =>
    (!r.session.isComplete && (r.call c).session.isComplete).toNat + (r.call c).completions cs

/-- **A learner in a lab**: the session has the lab, is at one of its steps or at its end, and
has tracked what was executed in the step. -/
structure InLab (profile : ProfileNumber) (lab : Lab) (r : LabRun) : Prop where
  /-- The session is that of the profile. -/
  profile_eq : r.session.profile = profile
  /-- It has the lab. -/
  lab_eq : r.session.lab = some lab
  /-- It is at one of the steps, or at the end. -/
  index_le : r.session.stepIndex ≤ lab.steps.length
  /-- It has tracked what was executed. -/
  lines_eq : r.session.tracker.lines = r.executed.map Text.squeeze
  /-- What it has seen agrees with what it has tracked. -/
  agrees : r.session.tracker.Agrees

variable {profile : ProfileNumber} {lab : Lab} {step : LabStep} {r : LabRun}

/-! ### Scores -/

/-- A session in a lab counts the lines that were executed in the step. -/
theorem InLab.length_matched (h : InLab profile lab r) (step : LabStep) :
    (r.session.tracker.matched step.expected).length = r.matched step := by
  have hseen : r.session.tracker.matched step.expected =
      step.expected.filter fun e => r.executed.any fun l => Text.squeeze l == Text.squeeze e := by
    refine List.filter_congr fun e _ => ?_
    rw [Bool.eq_iff_iff, h.agrees.hasSeen_iff, h.lines_eq]
    simp
  rw [hseen, matched, List.countP_eq_length_filter]

/-- **A step is passed by what was executed in it.** -/
theorem InLab.passed_scoreOf_iff (h : InLab profile lab r) (hexpected : step.expected ≠ []) :
    (r.session.scoreOf step).passed = true ↔ r.Passes step := by
  rw [Session.scoreOf, StepScore.passed_of_iff, h.length_matched, and_iff_right hexpected, Passes,
    Int.mul_comm 100]

/-! ### One call -/

/-- **A call that does not go on**: the learner stays at the step, and neither steps nor gates
nor reviews are recorded. -/
structure Stays (r r' : LabRun) : Prop where
  /-- The step is the same. -/
  index_eq : r'.session.stepIndex = r.session.stepIndex
  /-- No step is recorded. -/
  steps_eq : r'.tutor.store.steps = r.tutor.store.steps
  /-- No gate is recorded. -/
  gates_eq : r'.tutor.store.gates = r.tutor.store.gates
  /-- No review is recorded. -/
  reviews_eq : r'.tutor.store.reviews = r.tutor.store.reviews

/-- **What the end of a lab records**: nothing if its tier does not fit into the store, and
otherwise its gate and, if the calendar has the day, a review of its family. -/
def RecordsEnd (profile : ProfileNumber) (lab : Lab) (now : Instant) (before after : Store) : Prop :=
  if fitsStore lab.tier then
    after.gates = before.gates.insert (profile, Tutor.gateName lab.family lab.tier) lab.gate ∧
      after.reviews = before.reviewsAfterLab now profile lab.family
  else after.gates = before.gates ∧ after.reviews = before.reviews

/-- **A call that goes on** from a step: the step is recorded as passed, and the end of the lab
is recorded if the step was the last one. -/
structure GoesOn (profile : ProfileNumber) (lab : Lab) (step : LabStep) (now : Instant) (r r' : LabRun) :
    Prop where
  /-- The step is the next one. -/
  index_eq : r'.session.stepIndex = r.session.stepIndex + 1
  /-- The step that was passed is recorded, and no other one is. -/
  steps_eq : r'.tutor.store.steps = (r.tutor.store.notingStep profile lab.id step.id
    (r.session.scoreOf step).percentage).steps
  /-- In the middle of the lab neither gates nor reviews are recorded. -/
  middle : r.session.stepIndex + 1 < lab.steps.length →
    r'.tutor.store.gates = r.tutor.store.gates ∧ r'.tutor.store.reviews = r.tutor.store.reviews
  /-- The last step ends the lab. -/
  last : r.session.stepIndex + 1 = lab.steps.length →
    RecordsEnd profile lab now r.tutor.store r'.tutor.store

theorem Stays.refl (r : LabRun) : r.Stays r := ⟨rfl, rfl, rfl, rfl⟩

/-- A line may mark a tool as used, which records neither steps nor gates nor reviews. -/
theorem stays_line (r : LabRun) (text : String) : r.Stays (r.call (.line text)) := by
  obtain ⟨hplace, htutor, -⟩ := Session.effects_runLine r.tutor r.session text
  have hindex : (r.call (.line text)).session.stepIndex = r.session.stepIndex :=
    congrArg (fun p => p.2.2) hplace
  have hcall : (r.call (.line text)).tutor = if r.session.executes r.tutor text then
      r.tutor.markToolUsed r.session.profile (Session.lineCommand text) else r.tutor := htutor
  obtain ⟨tools, tiers, hmarked⟩ :=
    r.tutor.exists_markToolUsed r.session.profile (Session.lineCommand text)
  refine ⟨hindex, ?_, ?_, ?_⟩
  all_goals
    rw [hcall]
    split
    · rw [hmarked]
    · rfl

theorem stays_undo (r : LabRun) : r.Stays (r.call .undo) where
  index_eq := congrArg (fun p => p.2.2) (Session.place_undo r.session).1
  steps_eq := rfl
  gates_eq := rfl
  reviews_eq := rfl

/-- A hint changes nothing but what was revealed. -/
theorem exists_call_revealHint (r : LabRun) (clock : Magnitude) :
    ∃ revealed, r.call (.revealHint clock) = { r with session := { r.session with revealed } } := by
  cases hreveal : r.session.revealHint clock with
  | error fault => exact ⟨r.session.revealed, by simp only [call, hreveal]⟩
  | ok shown =>
    refine ⟨shown.1.revealed, ?_⟩
    rw [← Session.eq_of_revealHint hreveal]
    simp only [call, hreveal]

theorem stays_revealHint (r : LabRun) (clock : Magnitude) :
    r.Stays (r.call (.revealHint clock)) := by
  obtain ⟨revealed, hcall⟩ := r.exists_call_revealHint clock
  rw [hcall]
  exact ⟨rfl, rfl, rfl, rfl⟩

/-- Completing a lab records the end of the lab. -/
theorem recordsEnd_completeLab (t : Tutor) (now : Instant) (profile : ProfileNumber) (lab : Lab) :
    RecordsEnd profile lab now t.store (t.completeLab now profile lab).1.store ∧
      (t.completeLab now profile lab).1.store.steps = t.store.steps := by
  rw [Tutor.completeLab_eq, RecordsEnd]
  by_cases hfits : fitsStore lab.tier = true
  · obtain ⟨tiers, htiers⟩ := Tutor.exists_refreshTiers
      { t with store := t.store.notingGate profile lab.gate } profile [lab.family]
    rw [if_pos hfits, if_pos hfits, Tutor.passingGate, htiers]
    exact ⟨⟨rfl, rfl⟩, rfl⟩
  · rw [if_neg hfits, if_neg hfits]
    exact ⟨⟨rfl, rfl⟩, rfl⟩

/-- **Going on in a lab**: the learner stays at a step that is not passed, and goes on from
one that is. -/
theorem InLab.advance_cases (h : InLab profile lab r)
    (hexpected : ∀ step ∈ lab.steps, step.expected ≠ []) (now : Instant) (clock : Magnitude) :
    (r.call (.advance now clock) = r ∧
        ∀ step, lab.steps[r.session.stepIndex]? = some step → ¬r.Passes step) ∨
      ∃ step, lab.steps[r.session.stepIndex]? = some step ∧ r.Passes step ∧
        (r.call (.advance now clock)).session = r.session.atNextStep clock ∧
        GoesOn profile lab step now r (r.call (.advance now clock)) := by
  have hpassed : ∀ step, lab.steps[r.session.stepIndex]? = some step →
      ((r.session.scoreOf step).passed = true ↔ r.Passes step) :=
    fun step hstep => h.passed_scoreOf_iff (hexpected step (List.mem_of_getElem? hstep))
  have hexits := Session.advanceRun_advance r.session r.tutor now clock
  generalize hadvance : r.session.advance r.tutor now clock = a at hexits
  cases hexits with
  | stays hnone =>
    refine .inl ⟨by simp [call, hadvance], fun step hstep hpasses => ?_⟩
    have hcurrent : r.session.currentStep? = some step := by
      simp [Session.currentStep?, h.lab_eq, hstep]
    have hfailed := hnone step hcurrent
    rw [(hpassed step hstep).2 hpasses] at hfailed
    exact Bool.noConfusion hfailed
  | @goesOn lab' step hlab hstep hscore hnext =>
    obtain rfl : lab = lab' := Option.some.inj (h.lab_eq.symm.trans hlab)
    obtain rfl := h.profile_eq
    refine .inr ⟨step, hstep, (hpassed step hstep).1 hscore, by simp [call, hadvance], ?_⟩
    refine ⟨?_, ?_, fun _ => ?_, fun hlast => ?_⟩
    · simp [call, hadvance, Session.atNextStep, Session.resetStep]
    · simp [call, hadvance, Session.notingPass]
    · simp [call, hadvance, Session.notingPass, Store.notingStep]
    · omega
  | @completes lab' step hlab hstep hscore hlast =>
    obtain rfl : lab = lab' := Option.some.inj (h.lab_eq.symm.trans hlab)
    obtain rfl := h.profile_eq
    obtain ⟨hend, hsteps⟩ :=
      recordsEnd_completeLab (r.session.notingPass r.tutor lab step) now r.session.profile lab
    refine .inr ⟨step, hstep, (hpassed step hstep).1 hscore, by simp [call, hadvance], ?_⟩
    refine ⟨?_, ?_, fun hmiddle => ?_, fun _ => ?_⟩
    · simp [call, hadvance, Session.atNextStep, Session.resetStep]
    · simp only [call, hadvance, hsteps]
      rfl
    · omega
    · simp only [call, hadvance]
      exact hend

/-- **A call of a learner in a lab** stays at the step, or is going on from a step that is
passed. -/
theorem InLab.call_cases (h : InLab profile lab r)
    (hexpected : ∀ step ∈ lab.steps, step.expected ≠ []) (c : LabCall) :
    (r.Stays (r.call c) ∧ ∀ now clock step, c = .advance now clock →
        lab.steps[r.session.stepIndex]? = some step → ¬r.Passes step) ∨
      ∃ now clock step, c = .advance now clock ∧ lab.steps[r.session.stepIndex]? = some step ∧
        r.Passes step ∧ GoesOn profile lab step now r (r.call c) := by
  cases c with
  | line text => exact .inl ⟨stays_line r text, fun _ _ _ hc => LabCall.noConfusion hc⟩
  | undo => exact .inl ⟨stays_undo r, fun _ _ _ hc => LabCall.noConfusion hc⟩
  | revealHint clock =>
    exact .inl ⟨stays_revealHint r clock, fun _ _ _ hc => LabCall.noConfusion hc⟩
  | hintStatus clock => exact .inl ⟨.refl r, fun _ _ _ hc => LabCall.noConfusion hc⟩
  | advance now clock =>
    rcases h.advance_cases hexpected now clock with
      ⟨hsame, hnone⟩ | ⟨step, hstep, hpasses, -, hgoes⟩
    · rw [hsame]
      refine .inl ⟨.refl r, fun now' clock' step _ hstep => hnone step hstep⟩
    · exact .inr ⟨now, clock, step, rfl, hstep, hpasses, hgoes⟩

/-! ### All calls -/

theorem inLab_start (t : Tutor) (s : Session) (lab : Lab) (clock : Magnitude) :
    InLab s.profile lab (start t s lab clock) where
  profile_eq := rfl
  lab_eq := rfl
  index_le := Nat.zero_le _
  lines_eq := rfl
  agrees := Tracker.agrees_new

/-- A learner stays in the lab as long as the place is the same and what was executed is
tracked. -/
theorem InLab.congr {r' : LabRun} (h : InLab profile lab r)
    (hplace : r'.session.place = r.session.place)
    (hlines : r'.session.tracker.lines = r'.executed.map Text.squeeze)
    (hagrees : r'.session.tracker.Agrees) : InLab profile lab r' := by
  simp only [Session.place, Prod.mk.injEq] at hplace
  obtain ⟨hprofile, hlab, hindex⟩ := hplace
  exact ⟨hprofile.trans h.profile_eq, hlab.trans h.lab_eq, hindex ▸ h.index_le, hlines,
    hagrees⟩

/-- A line that executes a command is not blank. -/
theorem trim_ne_empty_of_executes {s : Session} {t : Tutor} {text : String}
    (h : s.executes t text = true) : Text.trim text ≠ "" := by
  intro hblank
  simp [Session.executes, Session.runLine_of_blank t s hblank, Session.Run.endsWell] at h

theorem InLab.line (h : InLab profile lab r) (text : String) :
    InLab profile lab (r.call (.line text)) := by
  obtain ⟨hplace, -, htracker⟩ := Session.effects_runLine r.tutor r.session text
  by_cases hexecutes : r.session.executes r.tutor text = true
  · rw [if_pos hexecutes] at htracker
    refine h.congr hplace ?_ ?_
    · simp only [LabRun.call, htracker]
      rw [if_pos hexecutes, Session.lines_record _ (trim_ne_empty_of_executes hexecutes),
        h.lines_eq, List.map_append, List.map_singleton, Text.squeeze_trim]
    · simp only [LabRun.call, htracker]
      exact h.agrees.record _
  · rw [if_neg hexecutes] at htracker
    refine h.congr hplace ?_ ?_
    · simp only [LabRun.call, htracker]
      rw [if_neg hexecutes, h.lines_eq]
    · simp only [LabRun.call, htracker]
      exact h.agrees

theorem InLab.revealHint (h : InLab profile lab r) (clock : Magnitude) :
    InLab profile lab (r.call (.revealHint clock)) := by
  obtain ⟨revealed, hcall⟩ := r.exists_call_revealHint clock
  rw [hcall]
  exact h.congr rfl h.lines_eq h.agrees

theorem InLab.advance (h : InLab profile lab r)
    (hexpected : ∀ step ∈ lab.steps, step.expected ≠ []) (now : Instant) (clock : Magnitude) :
    InLab profile lab (r.call (.advance now clock)) := by
  rcases h.advance_cases hexpected now clock with
    ⟨hsame, -⟩ | ⟨step, hstep, -, hsession, hgoes⟩
  · rw [hsame]
    exact h
  · have hlt : r.session.stepIndex < lab.steps.length := (List.getElem?_eq_some_iff.1 hstep).1
    -- Nothing has been executed in the new step.
    have hindex : (r.session.advance r.tutor now clock).session.stepIndex ≠
        r.session.stepIndex := by
      have hnext := hgoes.index_eq
      simp only [LabRun.call] at hnext
      omega
    have hexecuted : (r.call (.advance now clock)).executed = [] := by
      simp [LabRun.call, hindex]
    refine ⟨?_, ?_, ?_, ?_, ?_⟩
    · rw [hsession]
      exact h.profile_eq
    · rw [hsession]
      exact h.lab_eq
    · rw [hgoes.index_eq]
      exact hlt
    · rw [hsession, hexecuted]
      rfl
    · rw [hsession]
      exact Tracker.agrees_new

/-- **A call keeps a learner in the lab.** -/
theorem InLab.call (h : InLab profile lab r)
    (hexpected : ∀ step ∈ lab.steps, step.expected ≠ []) (c : LabCall) :
    InLab profile lab (r.call c) := by
  cases c with
  | line text => exact h.line text
  | undo =>
    obtain ⟨hplace, htracker⟩ := Session.place_undo r.session
    exact h.congr hplace ((congrArg Tracker.lines htracker).trans h.lines_eq)
      (show r.session.undo.1.tracker.Agrees from htracker ▸ h.agrees)
  | revealHint clock => exact h.revealHint clock
  | hintStatus clock => exact h
  | advance now clock => exact h.advance hexpected now clock

theorem InLab.run (h : InLab profile lab r)
    (hexpected : ∀ step ∈ lab.steps, step.expected ≠ []) (cs : List LabCall) :
    InLab profile lab (r.run cs) := by
  induction cs generalizing r with
  | nil => exact h
  | cons c cs ih => exact ih (h.call hexpected c)

/-- A lab is complete at its end. -/
theorem InLab.isComplete_eq (h : InLab profile lab r) :
    r.session.isComplete = decide (r.session.stepIndex = lab.steps.length) := by
  have hle := h.index_le
  rw [Session.isComplete, Session.currentStep?, h.lab_eq, Option.isSome_some, Bool.true_and,
    Option.bind_some, Bool.eq_iff_iff, Option.isNone_iff_eq_none, List.getElem?_eq_none_iff,
    decide_eq_true_iff]
  omega

/-- A call never takes a learner back, and no more than one step on. -/
theorem InLab.index_call (h : InLab profile lab r)
    (hexpected : ∀ step ∈ lab.steps, step.expected ≠ []) (c : LabCall) :
    (r.call c).session.stepIndex = r.session.stepIndex ∨
      (r.call c).session.stepIndex = r.session.stepIndex + 1 := by
  rcases h.call_cases hexpected c with ⟨hstays, -⟩ | ⟨now, clock, step, -, -, -, hgoes⟩
  · exact .inl hstays.index_eq
  · exact .inr hgoes.index_eq

/-- A lab that is complete stays so, and does not come to its end again. -/
theorem InLab.completions_of_isComplete (h : InLab profile lab r)
    (hexpected : ∀ step ∈ lab.steps, step.expected ≠ [])
    (hend : r.session.stepIndex = lab.steps.length) (cs : List LabCall) :
    r.completions cs = 0 ∧ (r.run cs).session.stepIndex = lab.steps.length := by
  induction cs generalizing r with
  | nil => exact ⟨rfl, hend⟩
  | cons c cs ih =>
    have hcall := h.call hexpected c
    have hend' : (r.call c).session.stepIndex = lab.steps.length := by
      have hle := hcall.index_le
      rcases h.index_call hexpected c with hsame | hnext
      · omega
      · omega
    obtain ⟨hnone, hindex⟩ := ih hcall hend'
    refine ⟨?_, hindex⟩
    rw [completions, h.isComplete_eq, hnone, hend]
    simp

/-- **A lab comes to its end once**, when all its steps have been passed. -/
theorem InLab.completions_eq (h : InLab profile lab r)
    (hexpected : ∀ step ∈ lab.steps, step.expected ≠ []) (cs : List LabCall) :
    r.completions cs = if r.session.stepIndex < lab.steps.length ∧
      (r.run cs).session.stepIndex = lab.steps.length then 1 else 0 := by
  induction cs generalizing r with
  | nil =>
    rw [if_neg]
    · rfl
    · rintro ⟨hlt, hend⟩
      exact absurd hend (Nat.ne_of_lt hlt)
  | cons c cs ih =>
    have hcall := h.call hexpected c
    have hrun : r.run (c :: cs) = (r.call c).run cs := rfl
    by_cases hend : r.session.stepIndex = lab.steps.length
    · have hnone := (h.completions_of_isComplete hexpected hend (c :: cs)).1
      rw [hnone, if_neg (fun hlt => absurd hend (Nat.ne_of_lt hlt.1))]
    · have hle := h.index_le
      have hlt : r.session.stepIndex < lab.steps.length := by omega
      rw [completions, h.isComplete_eq, hcall.isComplete_eq, decide_eq_false hend, hrun]
      by_cases hend' : (r.call c).session.stepIndex = lab.steps.length
      · -- The call ends the lab, and no later one does.
        obtain ⟨hnone, hindex⟩ := hcall.completions_of_isComplete hexpected hend' cs
        rw [hnone, decide_eq_true hend', if_pos ⟨hlt, hindex⟩]
        rfl
      · have hle' := hcall.index_le
        have hlt' : (r.call c).session.stepIndex < lab.steps.length := by omega
        rw [ih hcall, decide_eq_false hend']
        simp [hlt, hlt']

/-- **A lab is passed step by step and completed once.** For a lab among labs that were read,
after any calls `cs` since it was started, while the learner is at the step `i`:

* one more call leaves the learner at `i` or takes them to the next step, and never past the
  end;
* it takes them to the next step exactly if it is going on and the step is passed by the lines
  executed since it became current;
* then the step is recorded as passed, with its score, and no other step is;
* with any other call neither steps nor gates nor reviews are recorded, and going on from a
  step that is not the last one records neither gates nor reviews;
* going on from the last step records the gate of the lab and a review of its family, if the
  tier fits into the store and the calendar has the day for the review; if the tier does not
  fit, neither is recorded;
* so far the lab has come to its end once, if it has steps and all were passed, and otherwise
  never. -/
theorem stepwise_of_listOf {vs : List Value} {labs : OrderedMap String Lab}
    (hlabs : Lab.listOf vs = .ok labs) {id : String} {lab : Lab} (hlab : labs.get? id = some lab)
    (t : Tutor) (s : Session) (clock : Magnitude) (cs : List LabCall) :
    let r := (start t s lab clock).run cs
    let i := r.session.stepIndex
    (∀ c, i ≤ (r.call c).session.stepIndex ∧ (r.call c).session.stepIndex ≤ i + 1 ∧
      (r.call c).session.stepIndex ≤ lab.steps.length) ∧
    (∀ c, (r.call c).session.stepIndex = i + 1 ↔
      ∃ now clock step, c = .advance now clock ∧ lab.steps[i]? = some step ∧ r.Passes step) ∧
    (∀ c step, lab.steps[i]? = some step → (r.call c).session.stepIndex = i + 1 →
      (r.call c).tutor.store.steps = (r.tutor.store.notingStep s.profile lab.id step.id
        (r.matched step * 100 / step.expected.length : Nat)).steps) ∧
    (∀ c, (r.call c).session.stepIndex = i →
      (r.call c).tutor.store.steps = r.tutor.store.steps) ∧
    (∀ c, (r.call c).session.stepIndex = i ∨ (r.call c).session.stepIndex < lab.steps.length →
      (r.call c).tutor.store.gates = r.tutor.store.gates ∧
        (r.call c).tutor.store.reviews = r.tutor.store.reviews) ∧
    (∀ now clock, i + 1 = lab.steps.length →
      (r.call (.advance now clock)).session.stepIndex = i + 1 →
        RecordsEnd s.profile lab now r.tutor.store (r.call (.advance now clock)).tutor.store) ∧
    (start t s lab clock).completions cs =
      if lab.steps ≠ [] ∧ i = lab.steps.length then 1 else 0 := by
  intro r i
  obtain ⟨-, v, hv⟩ := Lab.exists_ofValue_of_listOf hlabs hlab
  have hexpected : ∀ step ∈ lab.steps, step.expected ≠ [] :=
    fun step hstep => (Lab.accepted_of_ofValue hv step hstep).expected_ne_nil
  have hin : InLab s.profile lab r := (inLab_start t s lab clock).run hexpected cs
  have hcases := hin.call_cases hexpected
  refine ⟨fun c => ⟨?_, ?_, (hin.call hexpected c).index_le⟩, fun c => ?_,
    fun c step hstep hnext => ?_, fun c hsame => ?_, fun c hc => ?_,
    fun now clock hlast hnext => ?_, ?_⟩
  · rcases hin.index_call hexpected c with hsame | hnext <;> omega
  · rcases hin.index_call hexpected c with hsame | hnext <;> omega
  · constructor
    · intro hnext
      rcases hcases c with ⟨hstays, -⟩ | ⟨now, clock, step, hc, hstep, hpasses, -⟩
      · have hsame := hstays.index_eq
        omega
      · exact ⟨now, clock, step, hc, hstep, hpasses⟩
    · rintro ⟨now, clock, step, hc, hstep, hpasses⟩
      rcases hcases c with ⟨-, hnone⟩ | ⟨_, _, _, -, -, -, hgoes⟩
      · exact absurd hpasses (hnone now clock step hc hstep)
      · exact hgoes.index_eq
  · rcases hcases c with ⟨hstays, -⟩ | ⟨now, clock, step', -, hstep', -, hgoes⟩
    · have hsame := hstays.index_eq
      omega
    · obtain rfl : step = step' := Option.some.inj (hstep.symm.trans hstep')
      rw [hgoes.steps_eq, Session.scoreOf, StepScore.of, hin.length_matched]
  · rcases hcases c with ⟨hstays, -⟩ | ⟨_, _, _, -, -, -, hgoes⟩
    · exact hstays.steps_eq
    · have hnext := hgoes.index_eq
      omega
  · rcases hcases c with ⟨hstays, -⟩ | ⟨_, _, _, -, -, -, hgoes⟩
    · exact ⟨hstays.gates_eq, hstays.reviews_eq⟩
    · have hnext := hgoes.index_eq
      exact hgoes.middle (by omega)
  · rcases hcases (.advance now clock) with ⟨hstays, -⟩ | ⟨now', clock', step, hc, -, -, hgoes⟩
    · have hsame := hstays.index_eq
      omega
    · obtain ⟨rfl, rfl⟩ := LabCall.advance.inj hc
      exact hgoes.last hlast
  · rw [(inLab_start t s lab clock).completions_eq hexpected cs]
    have hstart : (start t s lab clock).session.stepIndex = 0 := rfl
    simp only [hstart, List.length_pos_iff]
    rfl

/-- The record of a lab of one step, for a tier of a family with one tool. -/
def tourRecord (tier : Int) : Value := .object [
  ("id", .string "tour"),
  ("title", .string "Tour"),
  ("family", .string "viewer"),
  ("tier", .int tier),
  ("steps", .array [.object [
    ("id", .string "look"),
    ("title", .string "Look"),
    ("expected_commands", .array [.string "nvtop"])]])]

/-- The step of the lab. -/
def tourStep : LabStep where
  id := "look"
  title := "Look"
  expected := ["nvtop"]

/-- The lab. -/
def tour (tier : Int) : Lab where
  id := "tour"
  title := "Tour"
  family := "viewer"
  tier
  steps := [tourStep]

/-- A tutor who knows the tool. -/
def guide : Tutor :=
  { Tutor.viewer with
    catalogue := .ofDefinitions [{ command := "nvtop", synopsis := "nvtop" }] }

/-- The start of the lab. -/
def tourStart (tier : Int) : LabRun :=
  start guide (.start guide 1 (.whole 0)) (tour tier) (.whole 0)

theorem listOf_tourRecord (tier : Int) :
    Lab.listOf [tourRecord tier] = .ok (.ofList [("tour", tour tier)]) := rfl

/-- A learner who runs the expected line goes on to the end of the lab, which is recorded. -/
theorem tour_recorded :
    let r := (tourStart 2).run [.line "  nvtop"]
    r.Passes tourStep ∧
      (r.call (.advance .year2024 (.whole 0))).session.stepIndex = 1 ∧
      (r.call (.advance .year2024 (.whole 0))).tutor.store.gates.get?
        (1, Tutor.gateName "viewer" 2) = some (tour 2).gate := by
  intro r
  obtain ⟨-, hgoes, -, -, -, hends, -⟩ := stepwise_of_listOf (listOf_tourRecord 2)
    (show (OrderedMap.ofList [("tour", tour 2)]).get? "tour" = some (tour 2) from rfl) guide
    (.start guide 1 (.whole 0)) (.whole 0) [.line "  nvtop"]
  have hpasses : r.Passes tourStep := by decide +kernel
  have hindex : r.session.stepIndex = 0 := by decide +kernel
  have hstep : (tour 2).steps[r.session.stepIndex]? = some tourStep := by
    rw [hindex]
    rfl
  have hlast : r.session.stepIndex + 1 = (tour 2).steps.length := by
    rw [hindex]
    rfl
  have hnext : (r.call (.advance .year2024 (.whole 0))).session.stepIndex =
      r.session.stepIndex + 1 := (hgoes _).2 ⟨_, _, tourStep, rfl, hstep, hpasses⟩
  have hgates : (r.call (.advance .year2024 (.whole 0))).tutor.store.gates =
      r.tutor.store.gates.insert (1, Tutor.gateName "viewer" 2) (tour 2).gate :=
    (hends .year2024 (.whole 0) hlast hnext).1
  refine ⟨hpasses, by rw [hnext, hindex], ?_⟩
  rw [hgates]
  simp

/-- **The end of a lab that is not recorded.** Where the tier of a lab is one more than the
store can hold, the learner passes its last step, which is recorded, but neither its gate nor
a review is. -/
theorem overlargeTier_end_not_recorded :
    let r := (tourStart 9223372036854775808).run [.line "nvtop", .advance .year2024 (.whole 0)]
    r.session.isComplete = true ∧
      r.tutor.store.steps.get? (1, "tour", "look") = some ⟨100, true⟩ ∧
      r.tutor.store.gates.keys = [] ∧ r.tutor.store.reviews.keys = [] := by
  refine ⟨?_, ?_, ?_, ?_⟩
  · decide +kernel
  · decide +kernel
  · decide +kernel
  · decide +kernel

end LabRun

end ClusterTutor
