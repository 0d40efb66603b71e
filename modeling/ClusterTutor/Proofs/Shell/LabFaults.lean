import ClusterTutor.Proofs.Session.Hints
import ClusterTutor.Proofs.Shell.StatePage

/-!
# What can fail at the prompt of a lab

Most of what a lab says is checked when the lab is read: a pattern has to be one, a level and a
passing score are made numbers, the expected lines are made texts. Other parts are kept as they
stand, and fail when they are used.

| part | is read as | fails when |
|---|---|---|
| the threshold of a trigger | any value | the hints of the step are looked at |
| the name of a field of the state | any single value | the state is shown |
| a number in the state | a number of any length | the state is shown |
| the tier | a number of any size | the lab is completed |

This module follows a learner who asks at the prompt without running lines. A call fails exactly
if it comes upon one of these, or upon the end of the calendar
(`ClusterTutor.LabRun.raises_iff_of_read`). What carries the part about hints is that a step with
a faulty trigger never reveals any of its hints, since all of them are looked at together
(`ClusterTutor.LabRun.HidesFaulty`); this holds of any calls.
-/

namespace ClusterTutor

/-! ### Calls at the prompt -/

/-- A call at the prompt of a lab that neither runs a line nor undoes one. -/
inductive PromptCall where
  /-- Say how the hints stand. -/
  | hintStatus (clock : Magnitude)
  /-- Reveal the next hint. -/
  | revealHint (clock : Magnitude)
  /-- Score the current step. -/
  | completion
  /-- Go on to the next step, if the current one is passed. -/
  | advance (now : Instant) (clock : Magnitude)
  /-- Show the state of the machines. -/
  | showState

/-- The call of the session, if it may change something. -/
def PromptCall.labCall? : PromptCall → Option LabCall
  | .hintStatus clock => some (.hintStatus clock)
  | .revealHint clock => some (.revealHint clock)
  | .advance now clock => some (.advance now clock)
  | .completion | .showState => none

/-- **A state can be displayed**: the fields of each domain have an order, and all numbers can be
shown. -/
structure Snapshot.IsDisplayable (s : Snapshot) : Prop where
  /-- The fields of each domain have an order. -/
  orderable : ∀ d ∈ s.toList, Page.IsOrderable d.2
  /-- All numbers can be shown. -/
  showable : s.Showable

namespace LabRun

variable {r r' : LabRun} {lab : Lab} {step : LabStep}

/-- A lab after several calls at the prompt. -/
def prompt (r : LabRun) (cs : List PromptCall) : LabRun :=
  r.run (cs.filterMap PromptCall.labCall?)

/-- **A call at the prompt raises.** The score of a step is there or not, and never fails. -/
def Raises (r : LabRun) : PromptCall → Prop
  | .hintStatus clock => ∃ fault, r.session.hintLine clock = .error fault
  | .revealHint clock => ∃ fault, r.session.revealHint clock = .error fault
  | .completion => False
  | .advance now clock => ∃ fault, (r.session.advance r.tutor now clock).score = .error fault
  | .showState =>
    (∃ fault, (Page.state r.session.state).2 = some fault) ∨ ¬r.session.state.Showable

/-- **A call at the prompt of a lab meets a flaw**: a trigger of the current step that compares no
numbers; fields of the machines that cannot be displayed; or, past a last step that is passed by
nothing, a tier that does not fit into the store or a calendar without the day of the review. -/
def MeetsFlaw (lab : Lab) (r : LabRun) : PromptCall → Prop
  | .hintStatus _ | .revealHint _ => ∃ step, lab.steps[r.session.stepIndex]? = some step ∧
    ∃ h ∈ step.hints, h.trigger.comparesNumbers = false
  | .completion => False
  | .advance now _ => ∃ step, lab.steps[r.session.stepIndex]? = some step ∧
    step.passingScore = 0 ∧ r.session.stepIndex + 1 = lab.steps.length ∧
      (fitsStore lab.tier = false ∨
        r.tutor.store.nextReview? now r.session.profile lab.family = none)
  | .showState => ¬(Content.machines.overlay lab.initialState).IsDisplayable

/-! ### Hints -/

/-- **Where a trigger of the current step is faulty, no hint was revealed.** -/
def HidesFaulty (r : LabRun) : Prop :=
  ∀ step, r.session.currentStep? = some step →
    (∃ h ∈ step.hints, h.trigger.comparesNumbers = false) → r.session.revealed = .empty

theorem hidesFaulty_start (t : Tutor) (s : Session) (lab : Lab) (clock : Magnitude) :
    HidesFaulty (start t s lab clock) :=
  fun _ _ _ => rfl

namespace HidesFaulty

/-- It can be said how hints stand exactly if all triggers of the step compare numbers. -/
theorem exists_hintLine_iff (h : r.HidesFaulty) (hstep : r.session.currentStep? = some step)
    (clock : Magnitude) : (∃ text, r.session.hintLine clock = .ok text) ↔
      ¬∃ hint ∈ step.hints, hint.trigger.comparesNumbers = false := by
  rw [Session.exists_hintLine_iff hstep]
  constructor
  · rintro hall ⟨hint, hmem, hfaulty⟩
    rcases hall hint hmem with hrevealed | hcompares
    · rw [h step hstep ⟨hint, hmem, hfaulty⟩] at hrevealed
      exact NameSet.not_mem_empty _ hrevealed
    · rw [hfaulty] at hcompares
      cases hcompares
  · intro hnone hint hmem
    exact .inr (Bool.of_not_eq_false fun hfaulty => hnone ⟨hint, hmem, hfaulty⟩)

/-- A step without a faulty trigger has nothing to hide. -/
theorem of_comparing
    (hcompares : ∀ step, r.session.currentStep? = some step →
      ¬∃ h ∈ step.hints, h.trigger.comparesNumbers = false) : r.HidesFaulty :=
  fun step hstep hfaulty => absurd hfaulty (hcompares step hstep)

/-- What leaves the learner at the step, and reveals nothing, reveals nothing faulty. -/
theorem congr (h : r.HidesFaulty) (hplace : r'.session.place = r.session.place)
    (hrevealed : r'.session.revealed = r.session.revealed) : r'.HidesFaulty := by
  intro step hstep hfaulty
  rw [hrevealed]
  exact h step ((Session.currentStep?_of_place_eq hplace).symm.trans hstep) hfaulty

/-- **No call reveals a hint of a step with a faulty trigger.** -/
theorem call (h : r.HidesFaulty) (c : LabCall) : (r.call c).HidesFaulty := by
  cases c with
  | line text =>
    exact h.congr (Session.effects_runLine r.tutor r.session text).1
      (Session.lineRun_runLine r.tutor r.session text).revealed_eq
  | undo => exact h.congr (Session.place_undo r.session).1 (Session.revealed_undo r.session)
  | hintStatus clock => exact h
  | revealHint clock =>
    cases hreveal : r.session.revealHint clock with
    | error fault =>
      have hcall : r.call (.revealHint clock) = r := by simp [LabRun.call, hreveal]
      rw [hcall]
      exact h
    | ok shown =>
      have hcall : r.call (.revealHint clock) = { r with session := shown.1 } := by
        simp [LabRun.call, hreveal]
      have hline := (Session.exists_revealHint_iff clock).1 ⟨shown, hreveal⟩
      refine of_comparing fun step hstep => ?_
      rw [hcall, Session.currentStep?_of_place_eq (Session.place_revealHint hreveal)] at hstep
      exact (h.exists_hintLine_iff hstep clock).1 hline
  | advance now clock =>
    rcases r.session_advance now clock with hsame | hnext
    · exact h.congr (congrArg Session.place hsame) (congrArg Session.revealed hsame)
    · intro _ _ _
      rw [hnext]
      rfl

theorem run (h : r.HidesFaulty) (cs : List LabCall) : (r.run cs).HidesFaulty := by
  induction cs generalizing r with
  | nil => exact h
  | cons c cs ih => exact ih (h.call c)

end HidesFaulty

/-! ### Without lines -/

/-- **Nothing was run**: the machines are as at the start, and no line was executed. -/
structure Idle (lab : Lab) (r : LabRun) : Prop where
  /-- The machines are as the lab sets them up. -/
  state_eq : r.session.state = Content.machines.overlay lab.initialState
  /-- No line was executed. -/
  executed_eq : r.executed = []

theorem idle_start (t : Tutor) (s : Session) (lab : Lab) (clock : Magnitude) :
    Idle lab (start t s lab clock) :=
  ⟨rfl, rfl⟩

theorem Idle.call (h : Idle lab r) {c : PromptCall} {c' : LabCall} (hc : c.labCall? = some c') :
    Idle lab (r.call c') := by
  cases c with
  | hintStatus clock =>
    obtain rfl := Option.some.inj hc
    exact h
  | revealHint clock =>
    obtain rfl := Option.some.inj hc
    obtain ⟨revealed, hcall⟩ := r.exists_call_revealHint clock
    rw [hcall]
    exact ⟨h.state_eq, h.executed_eq⟩
  | advance now clock =>
    obtain rfl := Option.some.inj hc
    refine ⟨?_, ?_⟩
    · rcases r.session_advance now clock with hsame | hnext
      · rw [hsame]
        exact h.state_eq
      · rw [hnext]
        exact h.state_eq
    · simp only [LabRun.call, h.executed_eq, ite_self]
  | completion => cases hc
  | showState => cases hc

theorem Idle.prompt (h : Idle lab r) (cs : List PromptCall) : Idle lab (r.prompt cs) := by
  induction cs generalizing r with
  | nil => exact h
  | cons c cs ih =>
    cases hc : c.labCall? with
    | none =>
      have hprompt : r.prompt (c :: cs) = r.prompt cs := by
        rw [LabRun.prompt, List.filterMap_cons_none hc, LabRun.prompt]
      rw [hprompt]
      exact ih h
    | some c' =>
      have hprompt : r.prompt (c :: cs) = (r.call c').prompt cs := by
        rw [LabRun.prompt, List.filterMap_cons_some hc]
        rfl
      rw [hprompt]
      exact ih (h.call hc)

/-- Without lines a step is passed exactly if its passing score is zero. -/
theorem Idle.passes_iff (h : Idle lab r) (haccepted : step.Accepted) :
    r.Passes step ↔ step.passingScore = 0 := by
  have hmatched : r.matched step = 0 := by simp [matched, h.executed_eq]
  have hpos : (0 : Int) < step.expected.length :=
    Int.natCast_pos.2 (List.length_pos_iff.2 haccepted.expected_ne_nil)
  have hnonneg := haccepted.passingScore_nonneg
  rw [Passes, hmatched]
  constructor
  · intro hle
    by_contra hne
    have hscore : 0 < step.passingScore := by omega
    have hproduct := Int.mul_pos hscore hpos
    omega
  · intro hzero
    rw [hzero]
    simp

/-! ### What raises -/

/-- **Bad content of a lab is met at the prompt.** A lab was read, and was started in a session.
After any calls at the prompt that run no lines, the next one raises exactly if it meets a flaw of
the lab. -/
theorem raises_iff_of_read {v : Value} {labs : OrderedMap String Lab}
    (hread : v.parts >>= Lab.listOf = .ok labs) {id : String} {lab : Lab}
    (hlab : labs.get? id = some lab) (t : Tutor) (s : Session) (clock : Magnitude)
    (cs : List PromptCall) (c : PromptCall) :
    ((start t s lab clock).prompt cs).Raises c ↔
      MeetsFlaw lab ((start t s lab clock).prompt cs) c := by
  obtain ⟨vs, -, hlabs⟩ := bind_eq_ok.1 hread
  obtain ⟨-, v', hv'⟩ := Lab.exists_ofValue_of_listOf hlabs hlab
  have haccepted := Lab.accepted_of_ofValue hv'
  have hexpected : ∀ step ∈ lab.steps, step.expected ≠ [] :=
    fun step hstep => (haccepted step hstep).expected_ne_nil
  have hidle := (idle_start t s lab clock).prompt cs
  have hin : InLab s.profile lab ((start t s lab clock).prompt cs) :=
    (inLab_start t s lab clock).run hexpected _
  have hhides : HidesFaulty ((start t s lab clock).prompt cs) :=
    (hidesFaulty_start t s lab clock).run _
  generalize (start t s lab clock).prompt cs = r at hidle hin hhides
  have hcurrent : r.session.currentStep? = lab.steps[r.session.stepIndex]? := by
    rw [Session.currentStep?, hin.lab_eq, Option.bind_some]
  have hline : ∀ clock, (∃ fault, r.session.hintLine clock = .error fault) ↔
      ∃ step, lab.steps[r.session.stepIndex]? = some step ∧
        ∃ h ∈ step.hints, h.trigger.comparesNumbers = false := by
    intro clock
    rw [exists_eq_error_iff, ← hcurrent]
    cases hstep : r.session.currentStep? with
    | none => simp [Session.hintLine, hstep]
    | some step => simp [hhides.exists_hintLine_iff hstep]
  cases c with
  | hintStatus clock => exact hline clock
  | revealHint clock =>
    have hreveal := (exists_eq_error_iff (x := r.session.revealHint clock)).trans
      (not_congr (Session.exists_revealHint_iff clock))
    exact hreveal.trans (exists_eq_error_iff.symm.trans (hline clock))
  | completion => exact Iff.rfl
  | advance now clock =>
    constructor
    · rintro ⟨fault, hfault⟩
      obtain ⟨lab', step, hlab', hstep, hpassed, hlast, hrefused⟩ :=
        Session.advance_eq_error_iff.1 hfault
      obtain rfl : lab = lab' := Option.some.inj (hin.lab_eq.symm.trans hlab')
      have hmem := List.mem_of_getElem? hstep
      have hpasses := (hin.passed_scoreOf_iff (hexpected step hmem)).1 hpassed
      exact ⟨step, hstep, (hidle.passes_iff (haccepted step hmem)).1 hpasses, hlast,
        Tutor.exists_refusesEnd_iff.1 ⟨fault, hrefused⟩⟩
    · rintro ⟨step, hstep, hzero, hlast, hflaw⟩
      obtain ⟨fault, hrefused⟩ := Tutor.exists_refusesEnd_iff.2 hflaw
      have hmem := List.mem_of_getElem? hstep
      have hpassed := (hin.passed_scoreOf_iff (hexpected step hmem)).2
        ((hidle.passes_iff (haccepted step hmem)).2 hzero)
      exact ⟨fault, Session.advance_eq_error_iff.2
        ⟨lab, step, hin.lab_eq, hstep, hpassed, hlast, hrefused⟩⟩
  | showState =>
    have hlisted : (∃ fault, (Page.state r.session.state).2 = some fault) ↔
        ¬∀ d ∈ r.session.state.toList, Page.IsOrderable d.2 := by
      rw [← Page.state_snd_eq_none_iff, ← Option.ne_none_iff_exists']
    have hdisplayed : r.session.state.IsDisplayable ↔
        (∀ d ∈ r.session.state.toList, Page.IsOrderable d.2) ∧ r.session.state.Showable :=
      ⟨fun h => ⟨h.orderable, h.showable⟩, fun h => ⟨h.1, h.2⟩⟩
    rw [MeetsFlaw, ← hidle.state_eq, hdisplayed, not_and_or, ← hlisted, Raises]

/-- Labs of one step with one hint, which is given after some time. -/
def timedRecord (seconds : Value) : Value := .array [.object [
  ("id", .string "tour"),
  ("title", .string "Tour"),
  ("family", .string "viewer"),
  ("steps", .array [.object [
    ("id", .string "look"),
    ("title", .string "Look"),
    ("expected_commands", .array [.string "nvtop"]),
    ("hints", .array [.object [
      ("message", .string "Try a viewer."),
      ("trigger", .object [("type", .string "time"), ("seconds", seconds)])]])]])]]

/-- The step of the lab. -/
def timedStep (seconds : Value) : LabStep :=
  { tourStep with hints := [{
      id := "hint-0"
      level := 1
      message := "Try a viewer."
      trigger := { kind := .string "time", seconds } }] }

/-- The lab. -/
def timedTour (seconds : Value) : Lab :=
  { tour 1 with steps := [timedStep seconds] }

/-- The start of the lab. -/
def timedStart (seconds : Value) : LabRun :=
  start guide (.start guide 1 (.whole 0)) (timedTour seconds) (.whole 0)

theorem listOf_timedRecord (seconds : Value) :
    (timedRecord seconds).parts >>= Lab.listOf = .ok (.ofList [("tour", timedTour seconds)]) :=
  rfl

/-- Where the time is a number, nothing raises. -/
theorem timedTour_never_raises :
    (timedRecord (.int 60)).parts >>= Lab.listOf = .ok (.ofList [("tour", timedTour (.int 60))]) ∧
      ∀ cs c, ¬((timedStart (.int 60)).prompt cs).Raises c := by
  refine ⟨listOf_timedRecord (.int 60), fun cs c hraises => ?_⟩
  have hflaw := (raises_iff_of_read (listOf_timedRecord (.int 60))
    (show (OrderedMap.ofList [("tour", timedTour (.int 60))]).get? "tour" =
      some (timedTour (.int 60)) from rfl) guide (.start guide 1 (.whole 0)) (.whole 0) cs c).1
    hraises
  have hstep : ∀ {i : Nat} {step : LabStep}, (timedTour (.int 60)).steps[i]? = some step →
      step = timedStep (.int 60) := fun h => List.mem_singleton.1 (List.mem_of_getElem? h)
  have hcompares : ∀ h ∈ (timedStep (.int 60)).hints, h.trigger.comparesNumbers = true := by
    decide +kernel
  cases c with
  | hintStatus clock | revealHint clock =>
    obtain ⟨step, hcurrent, hint, hmem, hfaulty⟩ := hflaw
    rw [hstep hcurrent] at hmem
    rw [hcompares hint hmem] at hfaulty
    cases hfaulty
  | completion => exact hflaw
  | advance now clock =>
    obtain ⟨step, hcurrent, hzero, -⟩ := hflaw
    rw [hstep hcurrent] at hzero
    cases hzero
  | showState => exact hflaw ⟨fun d hd => .inr (.inl (Content.named_machines.forall_mem d hd)),
      Content.showable_machines⟩

/-- **A threshold that is a word.** A lab whose hint is given after the time `soon` is read, and
then neither asking how its hints stand nor asking for one is answered. -/
theorem wordThreshold_raises :
    (timedRecord (.string "soon")).parts >>= Lab.listOf =
        .ok (.ofList [("tour", timedTour (.string "soon"))]) ∧
      (timedStart (.string "soon")).Raises (.hintStatus (.whole 0)) ∧
      (timedStart (.string "soon")).Raises (.revealHint (.whole 0)) := by
  have hordered : Hint.ordered (timedStep (.string "soon")).hints =
      (timedStep (.string "soon")).hints := List.mergeSort_singleton _
  have hstep : (timedStart (.string "soon")).session.currentStep? =
      some (timedStep (.string "soon")) := rfl
  refine ⟨listOf_timedRecord (.string "soon"), ⟨.incomparable, ?_⟩, ⟨.incomparable, ?_⟩⟩
  · simp only [Session.hintLine, hstep, HintStatus.of, hordered]
    rfl
  · simp only [Session.revealHint, hstep, Hint.revealNext, HintStatus.of, hordered]
    rfl

end LabRun

end ClusterTutor
