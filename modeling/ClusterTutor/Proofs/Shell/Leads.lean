import ClusterTutor.Proofs.Number.DigitLike
import ClusterTutor.Proofs.Session.Overlong
import ClusterTutor.Proofs.Shell.StatePage
import ClusterTutor.Proofs.Shell.Turns

/-!
# What may follow a line

A line takes the shell to another screen, or ends it, perhaps with a fault. This module says
for each screen what may follow a line that is typed there, and for a fault what has led to it
(`ClusterTutor.Shell.leads_answer`). Where that can be said exactly, it is:

* a choice is a fault if its word looks like a number and cannot be read as one
  (`ClusterTutor.Shell.chosen?_eq_error_iff`);
* a line in a session is a fault if it runs a command with an overlong number, provided that
  the state can be listed (`ClusterTutor.Shell.inSession_eq_fault_iff`);
* going on in a lab fails if the lab is completed and the calendar has no day left, provided
  that the store can hold its tier (`ClusterTutor.Session.score_advance_eq_error_iff`).
-/

namespace ClusterTutor

variable {t t' : Tutor} {m : Moment} {learner : Profile} {s s' : Session} {family : Family}
  {line word : String} {printed : List String} {screen : Screen} {fault : ShellFault}

namespace Shell

/-! ### Choices -/

/-- **A choice is a fault exactly if its word is misread**, whatever there is to choose. -/
theorem chosen?_eq_error_iff {α : Type} {items : List α} {fault : Numeral.Fault} :
    chosen? word items = .error fault ↔ Numeral.Misread word fault := by
  by_cases hlooks : word.toList ≠ [] ∧ ∀ c ∈ word.toList, Text.isDigitLike c = true
  · have htest : (word.isEmpty || !word.toList.all Text.isDigitLike) = false := by
      have hempty : word.isEmpty = false := by simpa using hlooks.1
      rw [hempty, List.all_eq_true.2 hlooks.2]
      rfl
    rw [← Numeral.readInt_eq_error_iff_misread hlooks.1 hlooks.2, chosen?, htest,
      if_neg Bool.false_ne_true]
    cases Numeral.readInt word <;> simp [Except.map]
  · have htest : (word.isEmpty || !word.toList.all Text.isDigitLike) = true := by
      by_contra hcontra
      exact hlooks (by simpa using hcontra)
    rw [chosen?, if_pos htest]
    constructor
    · intro herror
      cases herror
    · exact fun hmisread => absurd hmisread.looks hlooks

end Shell

/-! ### Lines in a session -/

namespace Session

/-- **The lab is completed late**: the last step is passed, and the calendar has no day for the
next review of the family. -/
def CompletesLate (s : Session) (t : Tutor) (now : Instant) : Prop :=
  ∃ lab step, s.lab = some lab ∧ lab.steps[s.stepIndex]? = some step ∧
    (s.scoreOf step).passed = true ∧ s.stepIndex + 1 = lab.steps.length ∧
    t.store.nextReview? now s.profile lab.family = none

/-- **Going on fails exactly if a lab is completed late**, where the store can hold its tier. -/
theorem score_advance_eq_error_iff {s : Session}
    (h : ∀ lab, s.lab = some lab → fitsStore lab.tier = true) (t : Tutor) (now : Instant)
    (clock : Magnitude) (fault : StoreFault) :
    (s.advance t now clock).score = .error fault ↔
      fault = .afterCalendar ∧ s.CompletesLate t now := by
  rw [advance_eq_error_iff]
  constructor
  · rintro ⟨lab, step, hlab, hstep, hpassed, hlast, hrefused⟩
    rw [Tutor.RefusesEnd, if_pos (h lab hlab)] at hrefused
    exact ⟨hrefused.1, lab, step, hlab, hstep, hpassed, hlast, hrefused.2⟩
  · rintro ⟨rfl, lab, step, hlab, hstep, hpassed, hlast, hlate⟩
    refine ⟨lab, step, hlab, hstep, hpassed, hlast, ?_⟩
    rw [Tutor.RefusesEnd, if_pos (h lab hlab)]
    exact ⟨rfl, hlate⟩

end Session

namespace Shell

/-- **A line in a session is a fault exactly if it runs a command with an overlong number**, and
is no word of the session. -/
theorem inSession_eq_fault_iff (hs : s.state.Named) :
    (∃ t' printed, inSession t s line = .fault t' printed fault) ↔
      isSessionWord (menuWord line) = false ∧ fault = .line (.numeral .tooLong) ∧
        t.catalogue.RunsOverlong line := by
  have hpage : (Page.state s.state).2 = none := Page.state_snd hs
  simp only [inSession, isSessionWord]
  split
  · rename_i hback
    simp [hback]
  · rename_i hback
    split
    · rename_i hquit
      simp [hquit]
    · rename_i hquit
      split
      · rename_i hstate
        split
        · simp [hstate]
        · rename_i hfault
          rw [hfault] at hpage
          cases hpage
      · rename_i hstate
        split
        · rename_i hundo
          split <;> simp [hundo]
        · rename_i hundo
          have hrun := Session.runLine_eq_error_iff t s line
          split
          · rename_i fault' houtcome
            obtain ⟨rfl, hoverlong⟩ := (hrun fault').1 houtcome
            simp [hback, hquit, hstate, hundo, hoverlong, eq_comm]
          · rename_i o houtcome
            have hnone : ¬t.catalogue.RunsOverlong line := by
              intro hoverlong
              rw [(hrun (.numeral .tooLong)).2 ⟨rfl, hoverlong⟩] at houtcome
              cases houtcome
            simp [hnone]

end Shell

/-! ### What may follow a line -/

namespace Screen

/-- The family of the quiz at a screen. -/
def family? : Screen → Option Family
  | .score _ family => some family
  | _ => none

/-- Whether items are chosen by their numbers at a screen. -/
def isChoice : Screen → Bool
  | .profiles | .deletion | .labs _ | .families _ => true
  | _ => false

/-- A line is typed into the session at a screen, and it is no word of a lab. -/
structure TypedInto (screen : Screen) (line : String) (learner : Profile) (s : Session) :
    Prop where
  /-- There is a session. -/
  session : screen.session? = some (learner, s)
  /-- In a lab, the session sees the line. -/
  seen : screen = .lab learner s → Shell.isLabWord (Shell.menuWord line) = false

end Screen

namespace Shell

/-- **What may follow a line**, by the screen. A fault stands with what has led to it. -/
inductive Leads (t : Tutor) (m : Moment) (line : String) : Screen → Next → Prop
  /-- The learner leaves. -/
  | leaves {screen : Screen} : Leads t m line screen .leave
  /-- The shell comes to a screen without a quiz. -/
  | asks {screen next : Screen} : next.family? = none → Leads t m line screen (.ask next)
  /-- The shell comes to a quiz on one of the families. -/
  | asksScore {learner : Profile} {family : Family} : family ∈ t.families.values →
    Leads t m line (.families learner) (.ask (.score learner family))
  /-- A choice is misread. -/
  | misread {screen : Screen} {fault : Numeral.Fault} : screen.isChoice = true →
    Numeral.Misread (menuWord line) fault → Leads t m line screen (.fail (.numeral fault))
  /-- A profile is to be created, and no number is left for it. -/
  | full : Text.isBlankText line = false → ProfileNumber.ofInt? (t.store.lastId + 1) = none →
    Leads t m line .profileName (.fail (.store .full))
  /-- The learner has no profile. -/
  | noProfile {screen : Screen} {learner : Profile} : screen.learner? = some learner →
    t.store.profile? learner.id = none →
    Leads t m line screen (.fail (.unknownProfile learner.id))
  /-- A line in a session is a fault. -/
  | faultyLine {screen : Screen} {learner : Profile} {s : Session} {t' : Tutor}
    {printed : List String} {fault : ShellFault} : screen.TypedInto line learner s →
    inSession t s line = .fault t' printed fault → Leads t m line screen (.fail fault)
  /-- The hints of a step cannot be evaluated. -/
  | faultyHint {learner : Profile} {s : Session} {fault : HintFault} :
    s.revealHint m.clock = .error fault ∨ s.hintLine m.clock = .error fault →
    Leads t m line (.lab learner s) (.fail (.hint fault))
  /-- The store refuses what going on in a lab records. -/
  | refused {learner : Profile} {s s' : Session} {t' : Tutor} {printed : List String}
    {fault : StoreFault} : isLabWord (menuWord line) = false →
    inSession t s line = .stay t' s' printed →
    (s'.advance t' m.now m.clock).score = .error fault →
    Leads t m line (.lab learner s) (.fail (.store fault))
  /-- There is no such family. -/
  | noFamily {learner : Profile} {family : Family} : t.families.contains family.id = false →
    Leads t m line (.score learner family) (.fail (.unknownFamily family.id))

theorem leads_withSession (hlearner : screen.learner? = some learner) {go : Session → Turn}
    (hgo : ∀ s, Leads t m line screen (go s).next) :
    Leads t m line screen (withSession t m learner go).next := by
  unfold withSession
  split
  · rename_i hopen
    exact .noProfile hlearner (Option.map_eq_none_iff.1 hopen)
  · exact hgo _

theorem leads_toStep (isNew : Bool) : Leads t m line screen (toStep t' m learner s isNew).next := by
  rcases (toStep_cases t' m learner s isNew).2 with h | h
  · rw [h]
    exact .asks rfl
  · rw [h]
    exact .asks rfl

theorem leads_atProfiles : Leads t m line .profiles (atProfiles t m line).next := by
  simp only [atProfiles]
  split
  · exact .leaves
  · split
    · exact .asks rfl
    · split
      · split <;> exact .asks rfl
      · split
        · rename_i hchosen
          exact .misread rfl (chosen?_eq_error_iff.1 hchosen)
        · exact .asks rfl
        · exact .asks rfl

/-- A profile that is not refused for its name is refused because no number is left. -/
theorem full_of_createProfile {fault : StoreFault} (h : t.createProfile line = .error fault)
    (hname : fault ≠ .nameTaken) :
    fault = .full ∧ ProfileNumber.ofInt? (t.store.lastId + 1) = none := by
  unfold Tutor.createProfile at h
  cases hcreate : t.store.createProfile (Text.trim line) with
  | ok r =>
    rw [hcreate] at h
    cases h
  | error fault' =>
    rw [hcreate] at h
    obtain rfl := Except.error.inj h
    rcases Store.createProfile_eq_error hcreate with hfull | ⟨rfl, -⟩
    · exact hfull
    · exact absurd rfl hname

theorem leads_atProfileName : Leads t m line .profileName (atProfileName t m line).next := by
  simp only [atProfileName]
  split
  · exact .asks rfl
  · rename_i hblank
    split
    · exact .asks rfl
    · rename_i fault hother hcreate
      obtain ⟨rfl, hfull⟩ := full_of_createProfile hcreate hother
      exact .full (by simpa using hblank) hfull
    · exact .asks rfl

theorem leads_atDeletion : Leads t m line .deletion (atDeletion t line).next := by
  simp only [atDeletion]
  split
  · exact .asks rfl
  · split
    · rename_i hchosen
      exact .misread rfl (chosen?_eq_error_iff.1 hchosen)
    · exact .asks rfl
    · exact .asks rfl

theorem leads_atConfirmation (target : Profile) :
    Leads t m line (.confirmation target) (atConfirmation t target line).next := by
  simp only [atConfirmation]
  split
  · exact .asks rfl
  · split <;> exact .asks rfl

theorem leads_toLabs : Leads t m line screen (toLabs t m learner).next := by
  unfold toLabs
  split <;> exact .asks rfl

theorem leads_atMenu : Leads t m line (.menu learner) (atMenu t m learner line).next := by
  simp only [atMenu]
  split
  · exact leads_withSession rfl fun _ => .asks rfl
  · split
    · exact leads_toLabs
    · repeat' split
      all_goals first | exact .leaves | exact .asks rfl

theorem leads_atTerminal :
    Leads t m line (.terminal learner s) (atTerminal t m learner s line).next := by
  simp only [atTerminal]
  split
  · exact .asks rfl
  · exact .leaves
  · exact .asks rfl
  · rename_i hline
    exact .faultyLine ⟨rfl, fun hlab => Screen.noConfusion hlab⟩ hline

theorem leads_atLabs : Leads t m line (.labs learner) (atLabs t m learner line).next := by
  simp only [atLabs]
  split
  · exact .asks rfl
  · split
    · exact .leaves
    · split
      · rename_i hchosen
        exact .misread rfl (chosen?_eq_error_iff.1 hchosen)
      · exact .asks rfl
      · split
        · exact leads_withSession rfl fun _ => leads_toStep true
        · exact .asks rfl

theorem leads_atLab : Leads t m line (.lab learner s) (atLab t m learner s line).next := by
  simp only [atLab]
  split
  · simp only [giveHint]
    split
    · rename_i hreveal
      exact .faultyHint (.inl hreveal)
    · exact .asks rfl
  · rename_i hhint
    split
    · simp only [giveStatus]
      split
      · rename_i hstanding
        exact .faultyHint (.inr hstanding)
      · exact .asks rfl
    · rename_i hstatus
      have hword : isLabWord (menuWord line) = false := by simp [isLabWord, hhint, hstatus]
      split
      · exact .asks rfl
      · exact .leaves
      · rename_i hline
        simp only [afterLine]
        split
        · rename_i hscore
          exact .refused hword hline hscore
        · exact leads_toStep _
      · rename_i hline
        exact .faultyLine ⟨rfl, fun _ => hword⟩ hline

theorem leads_atReference :
    Leads t m line (.reference learner) (atReference t m learner line).next := by
  simp only [atReference]
  split
  · exact .asks rfl
  · split <;> exact .asks rfl

theorem leads_atFamilies :
    Leads t m line (.families learner) (atFamilies t m learner line).next := by
  simp only [atFamilies]
  split
  · exact .asks rfl
  · split
    · rename_i hchosen
      exact .misread rfl (chosen?_eq_error_iff.1 hchosen)
    · exact .asks rfl
    · rename_i hchosen
      exact .asksScore ((Text.perm_sortedBy _ _).mem_iff.1 (mem_of_chosen?_eq hchosen))

theorem leads_atScore :
    Leads t m line (.score learner family) (atScore t m learner family line).next := by
  simp only [atScore]
  split
  · exact .asks rfl
  · split
    · exact .asks rfl
    · rename_i id hquiz
      unfold Tutor.recordQuiz at hquiz
      split at hquiz
      · rename_i hunknown
        obtain rfl := QuizFault.unknownFamily.inj (Except.error.inj hquiz)
        exact .noFamily (by simpa using hunknown)
      · repeat' split at hquiz
        all_goals cases hquiz
    · exact .asks rfl

/-- **Every line leads to one of these.** -/
theorem leads_answer (t : Tutor) (screen : Screen) (m : Moment) (line : String) :
    Leads t m line screen (answer t screen m line).next := by
  cases screen with
  | profiles => exact leads_atProfiles
  | profileName => exact leads_atProfileName
  | deletion => exact leads_atDeletion
  | confirmation target => exact leads_atConfirmation target
  | menu learner => exact leads_atMenu
  | terminal learner s => exact leads_atTerminal
  | labs learner => exact leads_atLabs
  | lab learner s => exact leads_atLab
  | reference learner => exact leads_atReference
  | families learner => exact leads_atFamilies
  | score learner family => exact leads_atScore

end Shell

end ClusterTutor
