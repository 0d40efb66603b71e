import ClusterTutor.Proofs.Session.Rows
import ClusterTutor.Proofs.Session.States
import ClusterTutor.Proofs.Shell.History

/-!
# The sessions of the shell

Whatever is typed, the shell keeps the content of its tutor
(`ClusterTutor.Shell.Reached.content_eq`), and every session that it comes to was opened and led
on by calls, of which none starts a lab that is not one of the tutor
(`ClusterTutor.Shell.Reached.within`). So what holds of sessions after any such calls
(`ClusterTutor.Session.Within`) holds of the sessions of the shell.
-/

namespace ClusterTutor

/-! ### Content -/

namespace Tutor

/-- The content of a tutor: its commands, its families and its labs. -/
def content (t : Tutor) : Catalogue × Families × OrderedMap String Lab :=
  (t.catalogue, t.families, t.labs)

variable {t t' : Tutor}

theorem labs_eq_of_content_eq (h : t'.content = t.content) : t'.labs = t.labs :=
  congrArg (fun content => content.2.2) h

theorem families_eq_of_content_eq (h : t'.content = t.content) : t'.families = t.families :=
  congrArg (fun content => content.2.1) h

@[simp] theorem content_markToolUsed (t : Tutor) (profile : ProfileNumber) (tool : String) :
    (t.markToolUsed profile tool).content = t.content := rfl

@[simp] theorem content_completeLab (t : Tutor) (now : Instant) (profile : ProfileNumber) (lab : Lab) :
    (t.completeLab now profile lab).1.content = t.content := by
  rw [completeLab_eq]
  split <;> rfl

end Tutor

/-- Going on in a lab keeps the content. -/
theorem Session.content_advance (s : Session) (t : Tutor) (now : Instant) (clock : Magnitude) :
    (s.advance t now clock).tutor.content = t.content := by
  have hrun := s.advanceRun_advance t now clock
  generalize s.advance t now clock = a at hrun ⊢
  cases hrun with
  | stays _ => rfl
  | goesOn _ _ _ _ => rfl
  | completes _ _ _ _ => exact Tutor.content_completeLab _ _ _ _

/-! ### Sessions that calls have led to -/

/-- **A session within some labs** was opened, and calls have led to it, of which none starts
another lab. -/
inductive Session.Within (labs : List Lab) : Session → Prop
  /-- The session was just opened. -/
  | start (t : Tutor) (profile : ProfileNumber) (clock : Magnitude) : Within labs (.start t profile clock)
  /-- A call led on. -/
  | call {s : Session} {c : SessionCall} (t : Tutor) : Within labs s →
    (∀ lab clock, c = .startLab lab clock → lab ∈ labs) → Within labs (s.call t c)

namespace Session.Within

variable {labs : List Lab} {s : Session}

/-- What holds of all states at first and is kept by executions holds throughout a session. -/
theorem throughout {P : Snapshot → Prop} (h : s.Within labs) (hkeep : Definition.Keep P)
    (hmachines : P Content.machines)
    (hlabs : ∀ lab ∈ labs, P (Content.machines.overlay lab.initialState)) : s.Throughout P := by
  induction h with
  | start t profile clock => exact throughout_start hmachines t profile clock
  | @call s c t _ hstarts ih =>
    refine ih.call hkeep t ?_
    cases c with
    | startLab lab clock => exact hlabs lab (hstarts lab clock rfl)
    | _ => trivial

/-- The lab of a session is one of the labs. -/
theorem mem_labs (h : s.Within labs) {lab : Lab} (hlab : s.lab = some lab) : lab ∈ labs := by
  induction h with
  | start t profile clock => cases hlab
  | @call s c t _ hstarts ih =>
    cases c with
    | line text => exact ih ((of_place_eq (effects_runLine t s text).1).2.1.symm.trans hlab)
    | undo => exact ih ((of_place_eq (place_undo s).1).2.1.symm.trans hlab)
    | advance now clock =>
      refine ih (Eq.trans ?_ hlab)
      have hrun := s.advanceRun_advance t now clock
      simp only [Session.call]
      generalize s.advance t now clock = a at hrun ⊢
      cases hrun <;> rfl
    | revealHint clock =>
      refine ih (Eq.trans ?_ hlab)
      simp only [Session.call]
      split
      · rename_i hreveal
        exact (of_place_eq (place_revealHint hreveal)).2.1.symm
      · rfl
    | startLab lab' clock =>
      obtain rfl := Option.some.inj hlab
      exact hstarts lab' clock rfl

theorem runLine (h : s.Within labs) (t : Tutor) (line : String) :
    (runLine t s line).session.Within labs :=
  h.call (c := .line line) t fun _ _ hc => SessionCall.noConfusion hc

theorem undo (h : s.Within labs) (t : Tutor) : s.undo.1.Within labs :=
  h.call (c := .undo) t fun _ _ hc => SessionCall.noConfusion hc

theorem advance (h : s.Within labs) (t : Tutor) (now : Instant) (clock : Magnitude) :
    (s.advance t now clock).session.Within labs :=
  h.call (c := .advance now clock) t fun _ _ hc => SessionCall.noConfusion hc

theorem revealHint (h : s.Within labs) (t : Tutor) {clock : Magnitude} {s' : Session}
    {shown : String} (hreveal : s.revealHint clock = .ok (s', shown)) : s'.Within labs := by
  have hcall : s.call t (.revealHint clock) = s' := by simp [Session.call, hreveal]
  rw [← hcall]
  exact h.call t fun _ _ hc => SessionCall.noConfusion hc

theorem startLab (h : s.Within labs) (t : Tutor) {lab : Lab} (hlab : lab ∈ labs)
    (clock : Magnitude) : (s.startLab t lab clock).Within labs :=
  h.call (c := .startLab lab clock) t fun _ _ hc => (SessionCall.startLab.inj hc).1 ▸ hlab

end Session.Within

/-- The session at a screen, if there is one, is within some labs. -/
def Screen.Within (labs : List Lab) (screen : Screen) : Prop :=
  ∀ learner s, screen.session? = some (learner, s) → s.Within labs

namespace Screen

variable {labs : List Lab} {screen : Screen} {learner : Profile} {s : Session}

theorem within_of_noSession (h : screen.session? = none) : screen.Within labs := by
  intro learner s hsession
  rw [h] at hsession
  cases hsession

theorem within_terminal (h : s.Within labs) : (terminal learner s).Within labs := by
  intro learner' s' hsession
  obtain ⟨-, rfl⟩ := Prod.ext_iff.1 (Option.some.inj hsession)
  exact h

theorem within_lab (h : s.Within labs) : (lab learner s).Within labs := by
  intro learner' s' hsession
  obtain ⟨-, rfl⟩ := Prod.ext_iff.1 (Option.some.inj hsession)
  exact h

end Screen

namespace Shell

variable {t t' : Tutor} {m : Moment} {learner : Profile} {s s' : Session} {labs : List Lab}
  {line : String} {printed : List String} {next : Screen}

/-! ### Turns -/

theorem within_of_inSession_eq_stay (hs : s.Within labs)
    (h : inSession t s line = .stay t' s' printed) : s'.Within labs := by
  simp only [inSession] at h
  split at h
  · cases h
  · split at h
    · cases h
    · split at h
      · split at h
        · cases h
          exact hs
        · cases h
      · split at h
        · have hundo := hs.undo t
          split at h
          all_goals
            rename_i heq
            rw [heq] at hundo
            cases h
            exact hundo
        · split at h
          · cases h
          · cases h
            exact hs.runLine t line

/-- A line after which a session goes on keeps the content. -/
theorem content_of_inSession_eq_stay (h : inSession t s line = .stay t' s' printed) :
    t'.content = t.content := by
  obtain ⟨-, rfl | ⟨-, -, rfl⟩⟩ := of_inSession_eq_stay h
  · rfl
  · exact Tutor.content_markToolUsed _ _ _

theorem within_atLab (hs : s.Within labs) (h : (atLab t m learner s line).next = .ask next) :
    next.Within labs := by
  simp only [atLab, giveHint, giveStatus] at h
  split at h
  · split at h
    · cases h
    · rename_i hreveal
      obtain rfl := Next.ask.inj h
      exact Screen.within_lab (hs.revealHint t hreveal)
  · split at h
    · split at h
      · cases h
      · obtain rfl := Next.ask.inj h
        exact Screen.within_lab hs
    · split at h
      · obtain rfl := Next.ask.inj h
        exact Screen.within_of_noSession rfl
      · cases h
      · rename_i t' s' printed hstay
        have hs' := within_of_inSession_eq_stay hs hstay
        rcases (afterLine_cases t' m learner s').2 next h with rfl | rfl
        · exact Screen.within_of_noSession rfl
        · exact Screen.within_lab (hs'.advance t' _ _)
      · cases h

variable {t₀ : Tutor} {history : List TakenTurn} {x : TakenTurn} {screen : Screen}

/-- **Every turn keeps sessions within the labs of the tutor.** -/
theorem within_of_turn (hs : x.screen.Within labs) (hlabs : ∀ lab ∈ x.before.labs.values, lab ∈ labs)
    (hnext : x.turn.next = .ask next) : next.Within labs := by
  have hrun := x.turnRun
  have hanswer : (answer x.before x.screen x.line.moment x.line.text).next = .ask next := hnext
  generalize x.screen = screen at hrun hs hanswer
  generalize x.turn = turn at hrun hnext
  cases hrun with
  | quiet hquiet => exact Screen.within_of_noSession (hquiet.noSession next hnext)
  | creates _ hquiet => exact Screen.within_of_noSession (hquiet.noSession next hnext)
  | deletes hquiet => exact Screen.within_of_noSession (hquiet.noSession next hnext)
  | quiz _ hquiet => exact Screen.within_of_noSession (hquiet.noSession next hnext)
  | opens _ hopened =>
    obtain rfl := Next.ask.inj (hopened.symm.trans hnext)
    exact Screen.within_terminal (.start _ _ _)
  | starts hlab _ _ hstarted =>
    obtain rfl := Next.ask.inj (hstarted.symm.trans hnext)
    exact Screen.within_lab ((Session.Within.start _ _ _).startLab _ (hlabs _ hlab) _)
  | @terminal learner s _ _ _ _ hstay _ hgoes =>
    obtain rfl := Next.ask.inj (hgoes.symm.trans hnext)
    exact Screen.within_terminal (within_of_inSession_eq_stay (hs learner s rfl) hstay)
  -- In a lab the exits do not say which hint was revealed, but the function of the screen does.
  | @talks learner s _ _ _ _ _ =>
    change (atLab x.before x.line.moment learner s x.line.text).next = .ask next at hanswer
    exact within_atLab (hs learner s rfl) hanswer
  | @goesOn learner s _ _ _ _ _ _ _ _ =>
    change (atLab x.before x.line.moment learner s x.line.text).next = .ask next at hanswer
    exact within_atLab (hs learner s rfl) hanswer

/-- **Every turn keeps the content.** -/
theorem content_after (x : TakenTurn) : x.after.content = x.before.content := by
  have hrun := x.turnRun
  rw [show x.after = x.turn.tutor from rfl]
  generalize x.screen = screen at hrun
  generalize x.turn = turn at hrun ⊢
  cases hrun with
  | quiet hquiet => rw [hquiet.tutor_eq]
  | creates hcreate hquiet =>
    obtain ⟨profiles, lastId, hcreated⟩ := Tutor.exists_createProfile hcreate
    rw [hquiet.tutor_eq, hcreated]
    rfl
  | deletes hquiet =>
    rw [hquiet.tutor_eq]
    rfl
  | quiz hquiz hquiet =>
    obtain ⟨quizzes, tiers, hrecorded⟩ := Tutor.exists_recordQuiz hquiz
    rw [hquiet.tutor_eq, hrecorded]
    rfl
  | opens htutor _ => rw [htutor]
  | starts _ _ htutor _ => rw [htutor]
  | terminal hstay htutor _ =>
    rw [htutor]
    exact content_of_inSession_eq_stay hstay
  | talks _ htutor _ => rw [htutor]
  | goesOn _ hstay htutor _ =>
    rw [htutor, Session.content_advance]
    exact content_of_inSession_eq_stay hstay

/-! ### Histories -/

theorem Reached.content_eq {last : Next} (h : Reached t₀ history t last) :
    t.content = t₀.content := by
  induction h with
  | start => rfl
  | turn _ ih => exact (content_after _).trans ih

/-- **The sessions of the shell are within the labs of its tutor.** -/
theorem Reached.within (h : Reached t₀ history t (.ask screen)) :
    screen.Within t₀.labs.values := by
  generalize hlast : Next.ask screen = last at h
  induction h generalizing screen with
  | start =>
    obtain rfl := Next.ask.inj hlast
    exact Screen.within_of_noSession rfl
  | turn hx ih =>
    have hlabs := Tutor.labs_eq_of_content_eq hx.content_eq
    exact within_of_turn (ih rfl) (fun lab hlab => hlabs ▸ hlab) hlast.symm

end Shell

end ClusterTutor
