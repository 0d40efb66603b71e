import ClusterTutor.Proofs.Session.Steps
import ClusterTutor.Shell.Performance

/-!
# What a turn of the shell can do

A turn of the shell goes through one of a few exits, whatever the screen. Most turns are
*quiet*: they record nothing and come to a screen without a session
(`ClusterTutor.Shell.Quiet`). What the others do is listed once, in
`ClusterTutor.Shell.TurnRun`:

| at the screen | a turn may |
|---|---|
| `profileName`, `confirmation` | create or delete a profile |
| `score` | record a quiz |
| `menu` | open the free terminal |
| `labs` | start a lab that is unlocked |
| `terminal` | run a line |
| `lab` | ask for a hint, or run a line and then go on |

Statements on the shell go through these cases and do not open the functions of the screens.
-/

namespace ClusterTutor

namespace Screen

/-- The learner at a screen, once a profile is selected. -/
def learner? : Screen → Option Profile
  | .menu learner => some learner
  | .terminal learner _ => some learner
  | .labs learner => some learner
  | .lab learner _ => some learner
  | .reference learner => some learner
  | .families learner => some learner
  | .score learner _ => some learner
  | _ => none

/-- The session at a screen, with the learner it belongs to. -/
def session? : Screen → Option (Profile × Session)
  | .terminal learner session => some (learner, session)
  | .lab learner session => some (learner, session)
  | _ => none

end Screen

namespace Shell

variable {t t' : Tutor} {m : Moment} {s s' : Session} {learner : Profile} {lab : Lab}
  {line word : String} {turn : Turn}

/-! ### Quiet turns -/

/-- A learner of whom the shell may know at a screen: one of the profiles, or the learner who
is at the screen already. -/
def Knows (t : Tutor) (screen : Screen) (learner : Profile) : Prop :=
  learner ∈ t.store.profiles ∨ screen.learner? = some learner

/-- **A quiet turn** leaves a tutor as it is and comes to no session, and the learner at the
next screen is no other than one the shell may know of. -/
structure Quiet (t : Tutor) (screen : Screen) (turn : Turn) : Prop where
  /-- The tutor is the same. -/
  tutor_eq : turn.tutor = t
  /-- There is no session at the next screen. -/
  noSession : ∀ next, turn.next = .ask next → next.session? = none
  /-- The learner at the next screen is known. -/
  knows : ∀ next learner, turn.next = .ask next → next.learner? = some learner →
    Knows t screen learner

namespace Quiet

variable {screen : Screen}

theorem printing (h : Quiet t screen turn) (lines : List String) :
    Quiet t screen (turn.printing lines) :=
  ⟨h.tutor_eq, h.noSession, h.knows⟩

theorem fail (t : Tutor) (fault : ShellFault) : Quiet t screen (Shell.fail t fault) :=
  ⟨rfl, fun _ h => Next.noConfusion h, fun _ _ h => Next.noConfusion h⟩

theorem leave (t : Tutor) : Quiet t screen (Shell.leave t) :=
  ⟨rfl, fun _ h => Next.noConfusion h, fun _ _ h => Next.noConfusion h⟩

/-- Asking at a screen without a learner is quiet. -/
theorem ask (t : Tutor) {next : Screen} (h : next.learner? = none) (h' : next.session? = none) :
    Quiet t screen (Shell.ask t next) where
  tutor_eq := rfl
  noSession next' hnext := by
    obtain rfl := Next.ask.inj hnext
    exact h'
  knows next' learner hnext hlearner := by
    obtain rfl := Next.ask.inj hnext
    rw [h] at hlearner
    cases hlearner

/-- Asking a learner whom the shell knows, at a screen without a session, is quiet. -/
theorem askLearner (h : Knows t screen learner) {next : Screen}
    (hnext : next.learner? = some learner) (h' : next.session? = none) :
    Quiet t screen (Shell.ask t next) where
  tutor_eq := rfl
  noSession next' hask := by
    obtain rfl := Next.ask.inj hask
    exact h'
  knows next' learner' hask hlearner := by
    obtain rfl := Next.ask.inj hask
    rw [hnext] at hlearner
    exact Option.some.inj hlearner ▸ h

theorem toProfiles (t : Tutor) : Quiet t screen (Shell.toProfiles t) := (ask t rfl rfl).printing _

theorem toMenu (m : Moment) (h : Knows t screen learner) :
    Quiet t screen (Shell.toMenu t m learner) :=
  (askLearner h rfl rfl).printing _

theorem toFamilies (h : Knows t screen learner) : Quiet t screen (Shell.toFamilies t learner) :=
  (askLearner h rfl rfl).printing _

theorem toReference (h : Knows t screen learner) : Quiet t screen (Shell.toReference t learner) :=
  (askLearner h rfl rfl).printing _

theorem toLabs (m : Moment) (h : Knows t screen learner) :
    Quiet t screen (Shell.toLabs t m learner) := by
  unfold Shell.toLabs
  split
  · exact (toMenu m h).printing _
  · exact (askLearner h rfl rfl).printing _

end Quiet

/-! ### Lines in a session -/

/-- The words of a session that are no command lines. -/
def isSessionWord (word : String) : Bool :=
  isSessionBack word || isSessionQuit word || word == ":state" || word == ":undo"

/-- The words of a lab that the session does not see. -/
def isLabWord (word : String) : Bool := word == ":hint" || word == ":status"

/-- **The exits of a line in a session**: the learner leaves, or a fault ends the shell, or the
session goes on, with a line that has executed a command or without. -/
inductive SessionRun (t : Tutor) (s : Session) (line : String) : SessionTurn → Prop
  /-- The learner goes back. -/
  | back : SessionRun t s line .back
  /-- The learner leaves the shell. -/
  | quit : SessionRun t s line .quit
  /-- A fault ends the shell; nothing was recorded. -/
  | fault {printed : List String} {fault : ShellFault} :
    SessionRun t s line (.fault t printed fault)
  /-- Nothing is recorded. -/
  | quiet {s' : Session} {printed : List String} : s'.place = s.place →
    SessionRun t s line (.stay t s' printed)
  /-- A command is executed, and its tool is marked as used. -/
  | ran {s' : Session} {printed : List String} : isSessionWord (menuWord line) = false →
    s.executes t line = true → s'.place = s.place →
    SessionRun t s line
      (.stay (t.markToolUsed s.profile (Session.lineCommand line)) s' printed)

/-- **A line in a session goes through one of its exits.** -/
theorem sessionRun_inSession (t : Tutor) (s : Session) (line : String) :
    SessionRun t s line (inSession t s line) := by
  simp only [inSession]
  split
  · exact .back
  · rename_i hback
    split
    · exact .quit
    · rename_i hquit
      split
      · split
        · exact .quiet rfl
        · exact .fault
      · rename_i hstate
        split
        · have hplace := (Session.place_undo s).1
          split
          · rename_i hundo
            rw [hundo] at hplace
            exact .quiet hplace
          · rename_i hundo
            rw [hundo] at hplace
            exact .quiet hplace
        · rename_i hundo
          have hword : isSessionWord (menuWord line) = false := by
            simp [isSessionWord, hback, hquit, hstate, hundo]
          obtain ⟨hplace, htutor, -⟩ := Session.effects_runLine t s line
          split
          · rename_i houtcome
            have hnone : s.executes t line = false := by
              simp [Session.executes, Session.Run.endsWell, houtcome]
            rw [hnone, if_neg Bool.false_ne_true] at htutor
            rw [htutor]
            exact .fault
          · cases hexecutes : s.executes t line with
            | false =>
              rw [hexecutes, if_neg Bool.false_ne_true] at htutor
              rw [htutor]
              exact .quiet hplace
            | true =>
              rw [hexecutes, if_pos rfl] at htutor
              rw [htutor]
              exact .ran hword hexecutes hplace

/-- **A line after which the session goes on** leaves the learner in the same place; if it
executes a command, the tool of the command is marked as used, and otherwise nothing is
recorded. -/
theorem of_inSession_eq_stay {printed : List String}
    (h : inSession t s line = .stay t' s' printed) : s'.place = s.place ∧
      (t' = t ∨ isSessionWord (menuWord line) = false ∧ s.executes t line = true ∧
        t' = t.markToolUsed s.profile (Session.lineCommand line)) := by
  have hrun := sessionRun_inSession t s line
  rw [h] at hrun
  cases hrun with
  | quiet hplace => exact ⟨hplace, .inl rfl⟩
  | ran hword hexecutes hplace => exact ⟨hplace, .inr ⟨hword, hexecutes, rfl⟩⟩

/-! ### Turns -/

/-- **The exits of a turn**, by the screen. -/
inductive TurnRun (t : Tutor) (m : Moment) (line : String) : Screen → Turn → Prop
  /-- Nothing is recorded, and no session follows. -/
  | quiet {screen : Screen} {turn : Turn} : Quiet t screen turn → TurnRun t m line screen turn
  /-- A profile is created. -/
  | creates {t' : Tutor} {learner : Profile} {turn : Turn} :
    t.createProfile line = .ok (t', learner) → Quiet t' .profileName turn →
    TurnRun t m line .profileName turn
  /-- A profile is deleted. -/
  | deletes {target : Profile} {turn : Turn} :
    Quiet (t.deleteProfile target.id).1 (.confirmation target) turn →
    TurnRun t m line (.confirmation target) turn
  /-- A quiz is recorded. -/
  | quiz {learner : Profile} {family : Family} {score : Binary64} {r : Tutor × QuizResult}
    {turn : Turn} : t.recordQuiz learner.id family.id score = .ok r →
    Quiet r.1 (.score learner family) turn → TurnRun t m line (.score learner family) turn
  /-- The free terminal is opened. -/
  | opens {learner : Profile} {turn : Turn} : turn.tutor = t →
    turn.next = .ask (.terminal learner (.start t learner.id m.clock)) →
    TurnRun t m line (.menu learner) turn
  /-- One of the labs is started; its tier is unlocked. -/
  | starts {learner : Profile} {lab : Lab} {turn : Turn} : lab ∈ t.labs.values →
    (t.store.tierFacts learner.id).isUnlocked t.families lab.family lab.tier = true →
    turn.tutor = t →
    turn.next = .ask (.lab learner ((Session.start t learner.id m.clock).startLab t lab m.clock)) →
    TurnRun t m line (.labs learner) turn
  /-- The free terminal goes on after a line. -/
  | terminal {learner : Profile} {s s' : Session} {t' : Tutor} {printed : List String}
    {turn : Turn} : inSession t s line = .stay t' s' printed → turn.tutor = t' →
    turn.next = .ask (.terminal learner s') → TurnRun t m line (.terminal learner s) turn
  /-- In a lab, a hint is revealed, or it is said how the step stands. -/
  | talks {learner : Profile} {s s' : Session} {turn : Turn} : s'.place = s.place →
    turn.tutor = t → turn.next = .ask (.lab learner s') → TurnRun t m line (.lab learner s) turn
  /-- A lab goes on after a line; if the current step is passed by then, it is recorded. After
  the last step the lab is left for the menu. -/
  | goesOn {learner : Profile} {s s' : Session} {t' : Tutor} {printed : List String}
    {turn : Turn} : isLabWord (menuWord line) = false → inSession t s line = .stay t' s' printed →
    turn.tutor = (s'.advance t' m.now m.clock).tutor →
    (∀ next, turn.next = .ask next → next = .menu learner ∨
      next = .lab learner (s'.advance t' m.now m.clock).session) →
    TurnRun t m line (.lab learner s) turn

/-- What was chosen is one of the items. -/
theorem mem_of_chosen?_eq {α : Type} {items : List α} {x : α}
    (h : chosen? word items = .ok (some x)) : x ∈ items := by
  unfold chosen? at h
  split at h
  · simp at h
  · obtain ⟨n, -, hn⟩ := map_eq_ok.1 h
    split at hn
    · simp at hn
    · exact List.mem_of_getElem? hn

theorem mem_profiles_of_chosen?_eq (h : chosen? word t.store.listProfiles = .ok (some learner)) :
    learner ∈ t.store.profiles :=
  List.mem_mergeSort.1 (mem_of_chosen?_eq h)

theorem mem_profiles_createProfile (h : t.createProfile line = .ok (t', learner)) :
    learner ∈ t'.store.profiles := by
  obtain ⟨⟨store, p⟩, hcreate, heq⟩ := map_eq_ok.1 h
  obtain ⟨rfl, rfl⟩ := Prod.ext_iff.1 heq
  obtain ⟨id, -, -, hr⟩ := Store.createProfile_eq_ok hcreate
  obtain ⟨rfl, rfl⟩ := Prod.ext_iff.1 hr
  exact List.mem_append_right _ (List.mem_singleton_self _)

/-- The labs are shown with whether their tiers are unlocked. -/
theorem of_mem_labStatuses {profile : ProfileNumber} {row : LabStatus}
    (h : row ∈ t.labStatuses profile) :
    row.lab ∈ t.labs.values ∧ row.unlocked =
      (t.store.tierFacts profile).isUnlocked t.families row.lab.family row.lab.tier := by
  obtain ⟨lab, hlab, rfl⟩ := List.mem_map.1 h
  exact ⟨List.mem_mergeSort.1 hlab, rfl⟩

theorem quiet_withSession_none {screen : Screen} {go : Session → Turn}
    (h : t.store.profile? learner.id = none) : Quiet t screen (withSession t m learner go) := by
  simp only [withSession, Session.open?, h]
  exact .fail t _

theorem turnRun_atProfiles (t : Tutor) (m : Moment) (line : String) :
    TurnRun t m line .profiles (atProfiles t m line) := by
  simp only [atProfiles]
  refine .quiet ?_
  split
  · exact .leave t
  · split
    · exact .ask t rfl rfl
    · split
      · split
        · exact (Quiet.toProfiles t).printing _
        · exact (Quiet.ask t rfl rfl).printing _
      · split
        · exact .fail t _
        · rename_i learner hchosen
          exact .toMenu m (.inl (mem_profiles_of_chosen?_eq hchosen))
        · exact (Quiet.toProfiles t).printing _

theorem turnRun_atProfileName (t : Tutor) (m : Moment) (line : String) :
    TurnRun t m line .profileName (atProfileName t m line) := by
  simp only [atProfileName]
  split
  · exact .quiet ((Quiet.toProfiles t).printing _)
  · split
    · exact .quiet ((Quiet.toProfiles t).printing _)
    · exact .quiet (.fail t _)
    · rename_i t' learner hcreate
      exact .creates hcreate (.toMenu m (.inl (mem_profiles_createProfile hcreate)))

theorem turnRun_atDeletion (t : Tutor) (m : Moment) (line : String) :
    TurnRun t m line .deletion (atDeletion t line) := by
  simp only [atDeletion]
  refine .quiet ?_
  split
  · exact .toProfiles t
  · split
    · exact .fail t _
    · exact (Quiet.toProfiles t).printing _
    · exact (Quiet.ask t rfl rfl).printing _

theorem turnRun_atConfirmation (t : Tutor) (m : Moment) (target : Profile) (line : String) :
    TurnRun t m line (.confirmation target) (atConfirmation t target line) := by
  simp only [atConfirmation]
  split
  · exact .quiet ((Quiet.toProfiles t).printing _)
  · split
    · rename_i t' hdelete
      have htutor : (t.deleteProfile target.id).1 = t' := by rw [hdelete]
      exact .deletes (htutor ▸ (Quiet.toProfiles t').printing _)
    · rename_i t' hdelete
      have htutor : (t.deleteProfile target.id).1 = t' := by rw [hdelete]
      exact .deletes (htutor ▸ (Quiet.toProfiles t').printing _)

theorem turnRun_atMenu (t : Tutor) (m : Moment) (learner : Profile) (line : String) :
    TurnRun t m line (.menu learner) (atMenu t m learner line) := by
  have hknows : Knows t (.menu learner) learner := .inr rfl
  simp only [atMenu]
  split
  · cases hprofile : t.store.profile? learner.id with
    | none => exact .quiet (quiet_withSession_none hprofile)
    | some p =>
      have hopen : Session.open? t learner.id m.clock = some (.start t learner.id m.clock) := by
        simp [Session.open?, hprofile]
      refine .opens ?_ ?_
      · simp [toTerminal, withSession, hopen, Turn.printing, ask]
      · simp [toTerminal, withSession, hopen, Turn.printing, ask]
  · refine .quiet ?_
    split
    · exact .toLabs m hknows
    · split
      · exact (Quiet.toMenu m hknows).printing _
      · split
        · exact .toReference hknows
        · split
          · exact .toFamilies hknows
          · split
            · exact .toProfiles t
            · split
              · exact .leave t
              · exact (Quiet.toMenu m hknows).printing _

/-- Going on with a lab comes to the lab, or to the menu if the lab is complete. -/
theorem toStep_cases (t : Tutor) (m : Moment) (learner : Profile) (s : Session) (isNew : Bool) :
    (toStep t m learner s isNew).tutor = t ∧
      ((toStep t m learner s isNew).next = .ask (.menu learner) ∨
        (toStep t m learner s isNew).next = .ask (.lab learner s)) := by
  unfold toStep
  split
  · exact ⟨rfl, .inr rfl⟩
  · exact ⟨rfl, .inl rfl⟩

/-- A turn that comes to the menu, and changes nothing, is quiet. -/
theorem quiet_of_next_menu {screen : Screen} (h : Knows t screen learner) (htutor : turn.tutor = t)
    (hnext : turn.next = .ask (.menu learner)) : Quiet t screen turn where
  tutor_eq := htutor
  noSession next hask := by
    obtain rfl := Next.ask.inj (hnext.symm.trans hask)
    rfl
  knows next learner' hask hlearner := by
    obtain rfl := Next.ask.inj (hnext.symm.trans hask)
    exact Option.some.inj hlearner ▸ h

theorem turnRun_atLabs (t : Tutor) (m : Moment) (learner : Profile) (line : String) :
    TurnRun t m line (.labs learner) (atLabs t m learner line) := by
  have hknows : Knows t (.labs learner) learner := .inr rfl
  simp only [atLabs]
  split
  · exact .quiet (.toMenu m hknows)
  · split
    · exact .quiet (.leave t)
    · split
      · exact .quiet (.fail t _)
      · exact .quiet ((Quiet.toMenu m hknows).printing _)
      · rename_i row hchosen
        obtain ⟨hlab, hrow⟩ := of_mem_labStatuses (mem_of_chosen?_eq hchosen)
        split
        · rename_i hunlocked
          rw [hunlocked] at hrow
          cases hprofile : t.store.profile? learner.id with
          | none => exact .quiet (quiet_withSession_none hprofile)
          | some p =>
            have hopen : Session.open? t learner.id m.clock =
                some (.start t learner.id m.clock) := by
              simp [Session.open?, hprofile]
            let s := (Session.start t learner.id m.clock).startLab t row.lab m.clock
            have htoLab : toLab t m learner row.lab =
                (toStep t m learner s true).printing (Page.labStart row.lab) := by
              simp [toLab, withSession, hopen, s]
            rw [htoLab]
            obtain ⟨htutor, hnext | hnext⟩ := toStep_cases t m learner s true
            -- A lab without steps is left at once.
            · exact .quiet ((quiet_of_next_menu hknows htutor hnext).printing _)
            · exact .starts hlab hrow.symm htutor hnext
        · exact .quiet ((Quiet.toMenu m hknows).printing _)

theorem turnRun_atTerminal (t : Tutor) (m : Moment) (learner : Profile) (s : Session)
    (line : String) : TurnRun t m line (.terminal learner s) (atTerminal t m learner s line) := by
  have hexits := sessionRun_inSession t s line
  simp only [atTerminal]
  split
  · exact .quiet (.toMenu m (.inr rfl))
  · exact .quiet (.leave t)
  · rename_i t' s' printed hline
    exact .terminal hline rfl rfl
  · rename_i hline
    rw [hline] at hexits
    cases hexits
    exact .quiet ((Quiet.fail t _).printing _)

/-- After a line of a lab the step is recorded if it is passed, and the lab goes on or is
left. -/
theorem afterLine_cases (t : Tutor) (m : Moment) (learner : Profile) (s : Session) :
    (afterLine t m learner s).tutor = (s.advance t m.now m.clock).tutor ∧
      ∀ next, (afterLine t m learner s).next = .ask next → next = .menu learner ∨
        next = .lab learner (s.advance t m.now m.clock).session := by
  simp only [afterLine]
  split
  · exact ⟨rfl, fun _ h => Next.noConfusion h⟩
  · obtain ⟨htutor, hnext⟩ := toStep_cases (s.advance t m.now m.clock).tutor m learner
      (s.advance t m.now m.clock).session
      (decide ((s.advance t m.now m.clock).session.stepIndex ≠ s.stepIndex))
    refine ⟨htutor, fun next hask => ?_⟩
    exact hnext.imp (fun h => (Next.ask.inj (h.symm.trans hask)).symm)
      fun h => (Next.ask.inj (h.symm.trans hask)).symm

theorem turnRun_atLab (t : Tutor) (m : Moment) (learner : Profile) (s : Session) (line : String) :
    TurnRun t m line (.lab learner s) (atLab t m learner s line) := by
  have hexits := sessionRun_inSession t s line
  simp only [atLab]
  split
  · simp only [giveHint]
    split
    · exact .quiet (.fail t _)
    · rename_i s' text hreveal
      exact .talks (Session.place_revealHint hreveal) rfl rfl
  · rename_i hhint
    split
    · simp only [giveStatus]
      split
      · exact .quiet ((Quiet.fail t _).printing _)
      · exact .talks (rfl : s.place = s.place) rfl rfl
    · rename_i hstatus
      have hword : isLabWord (menuWord line) = false := by simp [isLabWord, hhint, hstatus]
      split
      · exact .quiet ((Quiet.toMenu m (.inr rfl)).printing _)
      · exact .quiet (.leave t)
      · rename_i t' s' printed hline
        obtain ⟨htutor, hnext⟩ := afterLine_cases t' m learner s'
        exact .goesOn hword hline htutor hnext
      · rename_i hline
        rw [hline] at hexits
        cases hexits
        exact .quiet ((Quiet.fail t _).printing _)

theorem quiet_atReference (t : Tutor) (m : Moment) (learner : Profile) (line : String) :
    Quiet t (.reference learner) (atReference t m learner line) := by
  have hknows : Knows t (.reference learner) learner := .inr rfl
  simp only [atReference]
  split
  · exact .toMenu m hknows
  · split
    · exact (Quiet.toMenu m hknows).printing _
    · exact (Quiet.toMenu m hknows).printing _

theorem quiet_atFamilies (t : Tutor) (m : Moment) (learner : Profile) (line : String) :
    Quiet t (.families learner) (atFamilies t m learner line) := by
  have hknows : Knows t (.families learner) learner := .inr rfl
  simp only [atFamilies]
  split
  · exact .toMenu m hknows
  · split
    · exact .fail t _
    · exact (Quiet.toMenu m hknows).printing _
    · exact .askLearner hknows rfl rfl

theorem turnRun_atScore (t : Tutor) (m : Moment) (learner : Profile) (family : Family)
    (line : String) :
    TurnRun t m line (.score learner family) (atScore t m learner family line) := by
  simp only [atScore]
  split
  · exact .quiet ((Quiet.toMenu m (.inr rfl)).printing _)
  · split
    · exact .quiet ((Quiet.toMenu m (.inr rfl)).printing _)
    · exact .quiet (.fail t _)
    · rename_i t' result hquiz
      exact .quiz hquiz ((Quiet.toMenu m (.inr rfl)).printing _)

/-- **A turn goes through one of its exits.** -/
theorem turnRun_answer (t : Tutor) (screen : Screen) (m : Moment) (line : String) :
    TurnRun t m line screen (answer t screen m line) := by
  cases screen with
  | profiles => exact turnRun_atProfiles t m line
  | profileName => exact turnRun_atProfileName t m line
  | deletion => exact turnRun_atDeletion t m line
  | confirmation target => exact turnRun_atConfirmation t m target line
  | menu learner => exact turnRun_atMenu t m learner line
  | terminal learner s => exact turnRun_atTerminal t m learner s line
  | labs learner => exact turnRun_atLabs t m learner line
  | lab learner s => exact turnRun_atLab t m learner s line
  | reference learner => exact .quiet (quiet_atReference t m learner line)
  | families learner => exact .quiet (quiet_atFamilies t m learner line)
  | score learner family => exact turnRun_atScore t m learner family line

end Shell

end ClusterTutor
