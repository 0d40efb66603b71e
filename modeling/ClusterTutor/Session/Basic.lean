import ClusterTutor.Content.Machines
import ClusterTutor.Help
import ClusterTutor.Hint.Reveal
import ClusterTutor.Simulation.Engine
import ClusterTutor.Tracker
import ClusterTutor.Tutor

/-!
# Sessions

A session is one learner at one simulated system: the engine with its history, the
actor, and what has been done in the current step of a lab. A session without a lab is a
free terminal.

The session remembers the actor before every executed line, next to the history of the
engine, so that undoing a line brings back both the state and the actor.
-/

namespace ClusterTutor

/-- How many executed lines can be undone. -/
def undoLimit : Nat := 100

/-- One learner at one simulated system. -/
structure Session where
  /-- The profile of the learner. -/
  profile : ProfileNumber
  /-- Who is acting. -/
  context : ExecutionContext := {}
  /-- The simulated system. -/
  engine : Engine
  /-- The lines executed in the current step. -/
  tracker : Tracker := {}
  /-- The lab, unless the session is a free terminal. -/
  lab : Option Lab := none
  /-- The index of the current step. -/
  stepIndex : Nat := 0
  /-- When the current step was begun. -/
  stepStartedAt : Magnitude
  /-- How many lines have failed in the current step. -/
  failedAttempts : Nat := 0
  /-- The hints revealed in the current step. -/
  revealed : NameSet := .empty
  /-- The lines typed in the current step. -/
  typed : List String := []
  /-- The actors before the executed lines, the latest first. -/
  pastContexts : List ExecutionContext := []

namespace Session

/-- A session at a fresh system. -/
def start (t : Tutor) (profile : ProfileNumber) (clock : Magnitude) : Session where
  profile
  engine := .start t.catalogue Content.machines undoLimit
  stepStartedAt := clock

/-- A session of a profile, if there is such a profile. -/
def open? (t : Tutor) (profile : ProfileNumber) (clock : Magnitude) : Option Session :=
  (t.store.profile? profile).map fun _ => start t profile clock

/-- The state of the simulated system. -/
def state (s : Session) : Snapshot := s.engine.state

/-- A session with nothing done in its current step. -/
def resetStep (s : Session) (clock : Magnitude) : Session :=
  { s with
    tracker := {}
    stepStartedAt := clock
    failedAttempts := 0
    revealed := .empty
    typed := [] }

/-- A session at the start of a lab: the system is set up anew, overlaid with what the
lab says. -/
def startLab (s : Session) (t : Tutor) (lab : Lab) (clock : Magnitude) : Session :=
  { s with
    engine := .start t.catalogue (Content.machines.overlay lab.initialState) undoLimit
    context := {}
    pastContexts := []
    lab := some lab
    stepIndex := 0 }.resetStep clock

/-- The step that the learner is at. -/
def currentStep? (s : Session) : Option LabStep :=
  s.lab.bind fun lab => lab.steps[s.stepIndex]?

/-- Whether the lab has been completed. -/
def isComplete (s : Session) : Bool :=
  s.lab.isSome && s.currentStep?.isNone

/-! ### Steps of a lab -/

/-- The score of the current step. -/
def score? (s : Session) : Option StepScore :=
  s.currentStep?.map fun step => .of step.expected s.tracker step.passingScore

/-- The outcome of going on to the next step. -/
structure Advance where
  /-- The tutor afterwards. -/
  tutor : Tutor
  /-- The session afterwards. -/
  session : Session
  /-- The score of the step that was current, if there was one. -/
  score : Except StoreFault (Option StepScore)

/-- Records the current step and goes on to the next one, if the step is passed. With
the last step the lab is completed. -/
def advance (s : Session) (t : Tutor) (now : Instant) (clock : Magnitude) : Advance :=
  match s.lab, s.currentStep?, s.score? with
  | some lab, some step, some score =>
    if !score.passed then ⟨t, s, .ok (some score)⟩
    else
      match t.store.recordStep s.profile lab.id step.id ⟨score.percentage, true⟩ with
      | .error fault => ⟨t, s, .error fault⟩
      | .ok store =>
        let t := { t with store }
        let s := { s with stepIndex := s.stepIndex + 1 }.resetStep clock
        if s.isComplete then
          match t.completeLab now s.profile lab with
          | (t, .error fault) => ⟨t, s, .error fault⟩
          | (t, .ok ()) => ⟨t, s, .ok (some score)⟩
        else ⟨t, s, .ok (some score)⟩
  | _, _, _ => ⟨t, s, .ok none⟩

/-! ### Hints -/

/-- What has been done in the current step. -/
def activity (s : Session) (clock : Magnitude) : StepActivity where
  elapsed := clock.sub s.stepStartedAt
  failedAttempts := s.failedAttempts
  typed := s.typed
  revealed := s.revealed

/-- What is said when there is no step. -/
def noStep : String := "No active step."

/-- The status line of the hints. -/
def hintLine (s : Session) (clock : Magnitude) : Except HintFault String :=
  match s.currentStep? with
  | none => .ok noStep
  | some step => (HintStatus.of step.hints (s.activity clock)).map HintStatus.line

/-- Reveals the next hint. If there is none, the status line is answered. -/
def revealHint (s : Session) (clock : Magnitude) : Except HintFault (Session × String) :=
  match s.currentStep? with
  | none => .ok (s, noStep)
  | some step => do
    match ← Hint.revealNext step.hints (s.activity clock) with
    | (none, _) => return (s, ← s.hintLine clock)
    | (some h, a) =>
      return ({ s with revealed := a.revealed }, h.page a.revealed.size step.hints.length)

/-! ### Undoing -/

/-- Goes back to the state and the actor before the latest executed line, and says
whether there was one. -/
def undo (s : Session) : Session × Bool :=
  match s.engine.undo with
  | (_, none) => (s, false)
  | (engine, some _) =>
    match s.pastContexts with
    | [] => ({ s with engine }, true)
    | context :: pastContexts => ({ s with engine, context, pastContexts }, true)

end Session

end ClusterTutor
