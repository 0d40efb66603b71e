import ClusterTutor.Proofs.Shell.Turns

/-!
# Histories of the shell

What a learner types at the shell, and what comes of it, is a list of turns. The turns that a
performance takes are its *history* (`ClusterTutor.Shell.taken`), and properties of whole
performances are proved turn by turn along `ClusterTutor.Shell.Reached`.

What is said of turns is what can be read off where the shell stood, what was typed and what
came of it:

* a turn *starts* a lab (`TakenTurn.Starts`), and the tier of the lab is unlocked at that
  moment (`TakenTurn.Unlocked`);
* a turn is *in* a lab (`TakenTurn.InLab`), and passes a step of it (`TakenTurn.PassesStep`);
* a turn executes a tool (`TakenTurn.Executes`).

A *visit* to a lab (`ClusterTutor.Shell.Visit`) is the turn that starts it together with the
turns in it since.
-/

namespace ClusterTutor.Shell

/-! ### Turns that were taken -/

/-- A turn that was taken: where the shell stood, and what was typed. -/
structure TakenTurn where
  /-- The tutor before the turn. -/
  before : Tutor
  /-- The screen at which the line was typed. -/
  screen : Screen
  /-- The line. -/
  line : TypedLine

namespace TakenTurn

/-- What the shell did with the line. -/
def turn (x : TakenTurn) : Turn := answer x.before x.screen x.line.moment x.line.text

/-- The tutor after the turn. -/
def after (x : TakenTurn) : Tutor := x.turn.tutor

theorem turnRun (x : TakenTurn) :
    TurnRun x.before x.line.moment x.line.text x.screen x.turn :=
  turnRun_answer x.before x.screen x.line.moment x.line.text

variable (x : TakenTurn) (learner : Profile) (lab : Lab)

/-- **A learner starts a lab**: one of the profiles, at the choice of labs, comes to the first
step of a lab of the tutor. -/
structure Starts : Prop where
  /-- The learner is choosing a lab. -/
  screen_eq : x.screen = .labs learner
  /-- The learner is one of the profiles. -/
  mem_profiles : learner ∈ x.before.store.profiles
  /-- The lab is one of the tutor. -/
  mem_labs : lab ∈ x.before.labs.values
  /-- The lab follows. -/
  next_eq : ∃ s, x.turn.next = .ask (.lab learner s) ∧ s.lab = some lab ∧ s.stepIndex = 0

/-- The tier of a lab is unlocked for a learner before a turn. -/
def Unlocked : Prop :=
  (x.before.store.tierFacts learner.id).isUnlocked x.before.families lab.family lab.tier = true

/-- A learner is in a lab. -/
def InLab : Prop := ∃ s, x.screen = .lab learner s ∧ s.lab = some lab

/-- A line is typed in a lab, and the step with a number is passed by then, so that the lab goes
on. -/
def PassesStep (i : Nat) : Prop :=
  ∃ learner s t' s' printed step, x.screen = .lab learner s ∧ s.lab = some lab ∧
    isLabWord (menuWord x.line.text) = false ∧
    inSession x.before s x.line.text = .stay t' s' printed ∧
    s'.stepIndex = i ∧ lab.steps[i]? = some step ∧ (s'.scoreOf step).passed = true

/-- **A tool is executed for a profile**: a line in a session of the learner is no word of the
session or of the lab, and it is a command that is carried out. -/
def Executes (profile : ProfileNumber) (tool : String) : Prop :=
  ∃ learner s, x.screen.session? = some (learner, s) ∧ learner.id = profile ∧
    isSessionWord (menuWord x.line.text) = false ∧
    (x.screen = .lab learner s → isLabWord (menuWord x.line.text) = false) ∧
    s.executes x.before x.line.text = true ∧ Session.lineCommand x.line.text = tool

end TakenTurn

/-! ### Histories -/

/-- The turns that are taken from a screen on. -/
def takenFrom (t : Tutor) (screen : Screen) : List TypedLine → List TakenTurn
  | [] => []
  | line :: lines =>
    let x : TakenTurn := ⟨t, screen, line⟩
    x :: match x.turn.next with
      | .ask next => takenFrom x.after next lines
      | .leave => []
      | .fail _ => []

/-- **The history of a performance.** -/
def taken (t : Tutor) (lines : List TypedLine) : List TakenTurn := takenFrom t .profiles lines

/-- **What can be reached from the start of the shell**: a history, the tutor after it, and
what follows. -/
inductive Reached (t₀ : Tutor) : List TakenTurn → Tutor → Next → Prop
  /-- The shell starts with the choice of a profile. -/
  | start : Reached t₀ [] t₀ (.ask .profiles)
  /-- A line is typed at the screen that was reached. -/
  | turn {history : List TakenTurn} {x : TakenTurn} :
    Reached t₀ history x.before (.ask x.screen) →
    Reached t₀ (history ++ [x]) x.after x.turn.next

variable {t₀ t : Tutor} {history earlier later : List TakenTurn} {x : TakenTurn} {screen : Screen}
  {next : Next}

theorem reached_performFrom (h : Reached t₀ history t (.ask screen)) (lines : List TypedLine) :
    ∃ next, Reached t₀ (history ++ takenFrom t screen lines)
      (performFrom t screen lines).tutor next := by
  induction lines generalizing history t screen with
  | nil => exact ⟨_, by simpa [takenFrom, performFrom] using h⟩
  | cons line lines ih =>
    have hturn : Reached t₀ (history ++ [⟨t, screen, line⟩]) _ _ := .turn h
    cases hnext : (answer t screen line.moment line.text).next with
    | ask next =>
      rw [show (TakenTurn.turn ⟨t, screen, line⟩).next = .ask next from hnext] at hturn
      obtain ⟨last, hlast⟩ := ih hturn
      refine ⟨last, ?_⟩
      simpa [takenFrom, performFrom, TakenTurn.turn, TakenTurn.after, hnext,
        Performance.preceded] using hlast
    | leave =>
      exact ⟨_, by simpa [takenFrom, performFrom, TakenTurn.turn, TakenTurn.after, hnext]
        using hturn⟩
    | fail fault =>
      exact ⟨_, by simpa [takenFrom, performFrom, TakenTurn.turn, TakenTurn.after, hnext]
        using hturn⟩

/-- **A performance reaches its end** by its history. -/
theorem reached_perform (t : Tutor) (lines : List TypedLine) :
    ∃ next, Reached t (taken t lines) (perform t lines).tutor next :=
  reached_performFrom .start lines

/-- **Every turn of a history was reached** by the turns before it. -/
theorem Reached.of_append_cons (h : Reached t₀ (earlier ++ x :: later) t next) :
    Reached t₀ earlier x.before (.ask x.screen) := by
  generalize hhistory : earlier ++ x :: later = history at h
  induction h generalizing later with
  | start => simp at hhistory
  | @turn history y hy ih =>
    rcases List.eq_nil_or_concat later with rfl | ⟨later, z, rfl⟩
    · obtain ⟨rfl, hxy⟩ := List.append_inj' hhistory rfl
      obtain rfl := List.singleton_inj.1 hxy
      exact hy
    · have hconcat : (earlier ++ x :: later) ++ [z] = history ++ [y] := by
        simpa using hhistory
      exact ih (List.append_inj' hconcat rfl).1

/-! ### Visits -/

/-- **A visit to a lab** at the end of a history: the turn by which a learner started the lab,
and the turns in the lab since. -/
structure Visit (history : List TakenTurn) (learner : Profile) (lab : Lab) where
  /-- The turns before the visit. -/
  earlier : List TakenTurn
  /-- The turn that starts the lab. -/
  start : TakenTurn
  /-- The turns in the lab. -/
  inside : List TakenTurn
  /-- The visit is at the end of the history. -/
  history_eq : history = earlier ++ start :: inside
  /-- The lab is started. -/
  starts : start.Starts learner lab
  /-- The learner has not left the lab. -/
  inLab : ∀ y ∈ inside, y.InLab learner lab

namespace Visit

variable {learner : Profile} {lab : Lab}

/-- The lab of a visit was unlocked when it was started. -/
def Unlocked (v : Visit history learner lab) : Prop := v.start.Unlocked learner lab

/-- A step was passed in a visit. -/
def Passed (v : Visit history learner lab) (i : Nat) : Prop := ∃ y ∈ v.inside, y.PassesStep lab i

/-- A visit that has just begun. -/
def begin (history : List TakenTurn) (h : x.Starts learner lab) :
    Visit (history ++ [x]) learner lab where
  earlier := history
  start := x
  inside := []
  history_eq := rfl
  starts := h
  inLab y hy := by simp at hy

/-- A visit that goes on for one more turn. -/
def extend (v : Visit history learner lab) (h : x.InLab learner lab) :
    Visit (history ++ [x]) learner lab where
  earlier := v.earlier
  start := v.start
  inside := v.inside ++ [x]
  history_eq := by
    conv_lhs => rw [v.history_eq]
    rw [List.append_assoc, List.cons_append]
  starts := v.starts
  inLab y hy := by
    rcases List.mem_append.1 hy with hy | hy
    · exact v.inLab y hy
    · obtain rfl := List.mem_singleton.1 hy
      exact h

variable {v : Visit history learner lab} {i : Nat}

theorem Passed.extend (h : v.Passed i) (hx : x.InLab learner lab) : (v.extend hx).Passed i := by
  obtain ⟨y, hy, hpasses⟩ := h
  exact ⟨y, List.mem_append_left _ hy, hpasses⟩

/-- The turn by which a visit goes on passes what it passes. -/
theorem passed_extend (v : Visit history learner lab) (hx : x.InLab learner lab)
    (h : x.PassesStep lab i) : (v.extend hx).Passed i :=
  ⟨x, List.mem_append_right _ (List.mem_singleton_self x), h⟩

end Visit

/-- **A lab was completed for a profile**: at some moment of the history a visit of the
learner, to the lab that was unlocked when it was started, had passed every step. -/
def Completed (history : List TakenTurn) (profile : ProfileNumber) (lab : Lab) : Prop :=
  ∃ visited, visited <+: history ∧ ∃ learner : Profile, learner.id = profile ∧
    ∃ v : Visit visited learner lab, v.Unlocked ∧ ∀ i < lab.steps.length, v.Passed i

theorem Completed.mono {history' : List TakenTurn} {profile : ProfileNumber} {lab : Lab}
    (h : Completed history profile lab) (hmore : history <+: history') :
    Completed history' profile lab := by
  obtain ⟨visited, hvisited, hcompleted⟩ := h
  exact ⟨visited, hvisited.trans hmore, hcompleted⟩

end ClusterTutor.Shell
