import ClusterTutor.Proofs.Session.LabRun
import ClusterTutor.Proofs.Session.Rows
import ClusterTutor.Proofs.Shell.History
import ClusterTutor.Proofs.Tier.Profiles

/-!
# The shell does not go round the tiers

Whatever is typed at the shell, on a store that is empty at first: step results, gates and
review entries are written in visits to labs that were unlocked when they were started, and the
third tier of a family is recorded for a profile only after a quiz that is a pass, every tool,
and a completed lab of the second tier.

Two invariants are kept by every turn, and so they hold of all that is
`ClusterTutor.Shell.Reached`:

* `ClusterTutor.Shell.AtScreen` says of a screen that its learner is one of the profiles, that
  a session is one of this learner, and that a lab is under way in a visit that has passed all
  steps before the current one;
* `ClusterTutor.Shell.Accounted` says of a store that what it knows of each profile is what some
  calls have left, each of which is backed by the history.

The first is what backs the calls of the second, and both are preserved by the exits of a turn,
one by one. What is recorded of a profile starts anew when the profile is deleted, and the
calls for other profiles do not count (`ClusterTutor.HighWater.congr`).
-/

namespace ClusterTutor.Shell

variable {t t' : Tutor} {s s' : Session} {learner : Profile} {lab : Lab} {screen next : Screen}
  {turn : Turn} {x : TakenTurn} {history : List TakenTurn} {printed : List String}

/-! ### Screens -/

/-- **What holds at a screen** that was reached by a history. -/
structure AtScreen (history : List TakenTurn) (t : Tutor) (screen : Screen) : Prop where
  /-- The learner is one of the profiles. -/
  mem_profiles : ∀ learner, screen.learner? = some learner → learner ∈ t.store.profiles
  /-- A session is one of the learner. -/
  profile_eq : ∀ learner s, screen.session? = some (learner, s) → s.profile = learner.id
  /-- In a lab, all steps before the current one were passed in a visit that is under way. -/
  visit : ∀ learner s, screen = .lab learner s → ∃ lab, s.lab = some lab ∧
    ∃ v : Visit history learner lab, v.Unlocked ∧ ∀ i < s.stepIndex, v.Passed i

namespace AtScreen

/-- Where there is no session, only the learner matters. -/
theorem of_noSession (h : screen.session? = none)
    (hmem : ∀ learner, screen.learner? = some learner → learner ∈ t.store.profiles) :
    AtScreen history t screen where
  mem_profiles := hmem
  profile_eq learner s hsession := by simp [h] at hsession
  visit learner s hlab := by
    subst hlab
    cases h

theorem menu (hmem : learner ∈ t.store.profiles) : AtScreen history t (.menu learner) :=
  of_noSession rfl fun _ h => Option.some.inj h ▸ hmem

/-- The screen after a quiet turn. -/
theorem of_quiet (hquiet : Quiet t screen turn) (hnext : turn.next = .ask next)
    (hmem : ∀ learner, screen.learner? = some learner → learner ∈ t.store.profiles) :
    AtScreen history turn.tutor next := by
  rw [hquiet.tutor_eq]
  refine of_noSession (hquiet.noSession next hnext) fun learner hlearner => ?_
  exact (hquiet.knows next learner hnext hlearner).elim id (hmem learner)

theorem terminal (hmem : learner ∈ t.store.profiles) (hprofile : s.profile = learner.id) :
    AtScreen history t (.terminal learner s) where
  mem_profiles learner' h := Option.some.inj h ▸ hmem
  profile_eq learner' s' h := by
    obtain ⟨rfl, rfl⟩ := Prod.ext_iff.1 (Option.some.inj h)
    exact hprofile
  visit learner' s' h := Screen.noConfusion h

theorem inLab (hmem : learner ∈ t.store.profiles) (hprofile : s.profile = learner.id)
    (hlab : s.lab = some lab) (v : Visit history learner lab) (hunlocked : v.Unlocked)
    (hpassed : ∀ i < s.stepIndex, v.Passed i) : AtScreen history t (.lab learner s) where
  mem_profiles learner' h := Option.some.inj h ▸ hmem
  profile_eq learner' s' h := by
    obtain ⟨rfl, rfl⟩ := Prod.ext_iff.1 (Option.some.inj h)
    exact hprofile
  visit learner' s' h := by
    obtain ⟨rfl, rfl⟩ := Screen.lab.inj h
    exact ⟨lab, hlab, v, hunlocked, hpassed⟩

theorem profile_of_lab (h : AtScreen history t screen) (hscreen : screen = .lab learner s) :
    s.profile = learner.id := by
  subst hscreen
  exact h.profile_eq learner s rfl

end AtScreen

/-- A line after which a session goes on comes and goes with no profiles. -/
theorem profiles_of_inSession_eq_stay {line : String}
    (h : inSession t s line = .stay t' s' printed) : t'.store.profiles = t.store.profiles := by
  obtain ⟨-, rfl | ⟨-, -, rfl⟩⟩ := of_inSession_eq_stay h
  · rfl
  · obtain ⟨tools, tiers, hmark⟩ := t.exists_markToolUsed s.profile (Session.lineCommand line)
    rw [hmark]

/-- **A visit goes on** with a line after which its session goes on, and it has passed a step
if the line did. -/
theorem exists_visit_of_stay (h : AtScreen history x.before x.screen)
    (hscreen : x.screen = .lab learner s) (hword : isLabWord (menuWord x.line.text) = false)
    (hstay : inSession x.before s x.line.text = .stay t' s' printed) :
    ∃ lab, s'.lab = some lab ∧ ∃ v : Visit (history ++ [x]) learner lab, v.Unlocked ∧
      (∀ i < s'.stepIndex, v.Passed i) ∧
      ∀ step, lab.steps[s'.stepIndex]? = some step → (s'.scoreOf step).passed = true →
        v.Passed s'.stepIndex := by
  obtain ⟨lab, hlab, v, hunlocked, hpassed⟩ := h.visit learner s hscreen
  obtain ⟨-, hsame, hindex⟩ := Session.of_place_eq (of_inSession_eq_stay hstay).1
  have hx : x.InLab learner lab := ⟨s, hscreen, hlab⟩
  refine ⟨lab, hsame.trans hlab, v.extend hx, hunlocked, fun i hi => ?_, ?_⟩
  · exact (hpassed i (hindex ▸ hi)).extend hx
  · intro step hstep hscore
    exact v.passed_extend hx ⟨learner, s, t', s', printed, step, hscreen, hlab, hword, hstay, rfl,
      hstep, hscore⟩

/-- A line that passes the last step of a lab completes the lab for its learner. -/
theorem completed_of_stay (h : AtScreen history x.before x.screen)
    (hscreen : x.screen = .lab learner s) (hword : isLabWord (menuWord x.line.text) = false)
    (hstay : inSession x.before s x.line.text = .stay t' s' printed) {step : LabStep}
    (hlab : s'.lab = some lab) (hstep : lab.steps[s'.stepIndex]? = some step)
    (hscore : (s'.scoreOf step).passed = true) (hlast : s'.stepIndex + 1 = lab.steps.length) :
    Completed (history ++ [x]) s'.profile lab := by
  obtain ⟨hprofile, -, -⟩ := Session.of_place_eq (of_inSession_eq_stay hstay).1
  obtain ⟨lab', hlab', v, hunlocked, hpassed, hpasses⟩ :=
    exists_visit_of_stay h hscreen hword hstay
  obtain rfl : lab = lab' := Option.some.inj (hlab.symm.trans hlab')
  refine ⟨_, List.prefix_rfl, learner, ?_, v, hunlocked, fun i hi => ?_⟩
  · exact (hprofile.trans (h.profile_of_lab hscreen)).symm
  · rw [← hlast] at hi
    rcases Nat.lt_succ_iff_lt_or_eq.1 hi with hi | rfl
    · exact hpassed i hi
    · exact hpasses step hstep hscore

/-- Going on in a lab keeps the visit, which has passed all steps before the current one. -/
theorem AtScreen.advance (hmem : learner ∈ t.store.profiles) (hprofile : s.profile = learner.id)
    (hlab : s.lab = some lab) (v : Visit history learner lab) (hunlocked : v.Unlocked)
    (hpassed : ∀ i < s.stepIndex, v.Passed i)
    (hlast : ∀ step, lab.steps[s.stepIndex]? = some step → (s.scoreOf step).passed = true →
      v.Passed s.stepIndex) (now : Instant) (clock : Magnitude) :
    AtScreen history (s.advance t now clock).tutor
      (.lab learner (s.advance t now clock).session) := by
  rw [← s.profiles_advance t now clock] at hmem
  -- After a step that is passed, the next one is current.
  have hnext : ∀ lab' step, s.lab = some lab' → lab'.steps[s.stepIndex]? = some step →
      (s.scoreOf step).passed = true → ∀ i < s.stepIndex + 1, v.Passed i := by
    intro lab' step hlab' hstep hscore i hi
    obtain rfl : lab = lab' := Option.some.inj (hlab.symm.trans hlab')
    rcases Nat.lt_succ_iff_lt_or_eq.1 hi with hi | rfl
    · exact hpassed i hi
    · exact hlast step hstep hscore
  have hrun := Session.advanceRun_advance s t now clock
  generalize s.advance t now clock = a at hrun hmem ⊢
  cases hrun with
  | stays _ => exact .inLab hmem hprofile hlab v hunlocked hpassed
  | goesOn hlab' hstep hscore _ =>
    exact .inLab hmem hprofile hlab v hunlocked (hnext _ _ hlab' hstep hscore)
  | completes hlab' hstep hscore _ =>
    exact .inLab hmem hprofile hlab v hunlocked (hnext _ _ hlab' hstep hscore)

/-- **Every turn keeps what holds at screens.** -/
theorem AtScreen.step (h : AtScreen history x.before x.screen) (hnext : x.turn.next = .ask next) :
    AtScreen (history ++ [x]) x.after next := by
  have hrun := x.turnRun
  have hmem := h.mem_profiles
  rw [show x.after = x.turn.tutor from rfl]
  generalize hscreen : x.screen = screen at hrun hmem
  generalize hturn : x.turn = turn at hrun hnext ⊢
  cases hrun with
  | quiet hquiet => exact .of_quiet hquiet hnext hmem
  | creates hcreate hquiet => exact .of_quiet hquiet hnext fun _ hnone => nomatch hnone
  | deletes hquiet => exact .of_quiet hquiet hnext fun _ hnone => nomatch hnone
  | quiz hquiz hquiet =>
    obtain ⟨quizzes, tiers, hrecorded⟩ := Tutor.exists_recordQuiz hquiz
    refine .of_quiet hquiet hnext fun learner hlearner => ?_
    rw [hrecorded]
    exact hmem learner hlearner
  | opens htutor hopened =>
    obtain rfl := Next.ask.inj (hopened.symm.trans hnext)
    rw [htutor]
    exact .terminal (hmem _ rfl) rfl
  | @starts learner lab _ hlab hunlocked htutor hstarted =>
    obtain rfl := Next.ask.inj (hstarted.symm.trans hnext)
    have hstarts : x.Starts learner lab :=
      ⟨hscreen, hmem _ rfl, hlab, _, hturn ▸ hstarted, rfl, rfl⟩
    rw [htutor]
    exact .inLab (hmem _ rfl) rfl rfl (.begin history hstarts) hunlocked
      fun i hi => absurd hi (Nat.not_lt_zero i)
  | terminal hstay htutor hgoes =>
    obtain rfl := Next.ask.inj (hgoes.symm.trans hnext)
    obtain ⟨hsame, -, -⟩ := Session.of_place_eq (of_inSession_eq_stay hstay).1
    rw [htutor]
    refine .terminal ?_ (hsame.trans (h.profile_eq _ _ (by rw [hscreen]; rfl)))
    rw [profiles_of_inSession_eq_stay hstay]
    exact hmem _ rfl
  | talks hplace htutor hgoes =>
    obtain rfl := Next.ask.inj (hgoes.symm.trans hnext)
    obtain ⟨hprofile, hlab, hindex⟩ := Session.of_place_eq hplace
    obtain ⟨lab, hinLab, v, hunlocked, hpassed⟩ := h.visit _ _ hscreen
    have hx : x.InLab _ lab := ⟨_, hscreen, hinLab⟩
    rw [htutor]
    refine .inLab (hmem _ rfl) (hprofile.trans (h.profile_of_lab hscreen)) (hlab.trans hinLab)
      (v.extend hx) hunlocked fun i hi => ?_
    exact (hpassed i (hindex ▸ hi)).extend hx
  | goesOn hword hstay htutor hgoes =>
    obtain ⟨hsame, -, -⟩ := Session.of_place_eq (of_inSession_eq_stay hstay).1
    obtain ⟨lab, hlab, v, hunlocked, hpassed, hlast⟩ := exists_visit_of_stay h hscreen hword hstay
    have hprofiles := profiles_of_inSession_eq_stay hstay
    have hadvance := AtScreen.advance (hprofiles ▸ hmem _ rfl)
      (hsame.trans (h.profile_of_lab hscreen)) hlab v hunlocked hpassed hlast
      x.line.moment.now x.line.moment.clock
    rw [htutor]
    rcases hgoes next hnext with rfl | rfl
    · exact .menu (hadvance.mem_profiles _ rfl)
    · exact hadvance

theorem Reached.atScreen {t₀ : Tutor} (h : Reached t₀ history t (.ask screen)) :
    AtScreen history t screen := by
  generalize hnext : Next.ask screen = next at h
  induction h generalizing screen with
  | start =>
    obtain rfl := Next.ask.inj hnext
    exact .of_noSession rfl fun _ hnone => nomatch hnone
  | turn _ ih => exact (ih rfl).step hnext.symm

/-! ### Rows -/

/-- A turn is in a lab for a profile, in a visit to the lab, which was unlocked when the visit
began. -/
def Visiting (history : List TakenTurn) (x : TakenTurn) (profile : ProfileNumber) (lab : Lab) : Prop :=
  ∃ learner : Profile, learner.id = profile ∧ x.InLab learner lab ∧
    ∃ v : Visit history learner lab, v.Unlocked

theorem writesFor_of_inSession_eq_stay {owner : ProfileNumber → Lab → Prop} {line : String}
    (h : inSession t s line = .stay t' s' printed) :
    Store.WritesFor owner t.store t'.store := by
  obtain ⟨-, rfl | ⟨-, -, rfl⟩⟩ := of_inSession_eq_stay h
  · exact .refl owner _
  · exact .markToolUsed owner t s.profile _

/-- **Every turn writes step results, gates and review entries for a visited lab only.** -/
theorem AtScreen.writesFor (h : AtScreen history x.before x.screen) :
    Store.WritesFor (Visiting history x) x.before.store x.after.store := by
  have hrun := x.turnRun
  rw [show x.after = x.turn.tutor from rfl]
  generalize hscreen : x.screen = screen at hrun
  generalize hturn : x.turn = turn at hrun ⊢
  cases hrun with
  | quiet hquiet =>
    rw [hquiet.tutor_eq]
    exact .refl _ _
  | creates hcreate hquiet =>
    obtain ⟨profiles, lastId, hcreated⟩ := Tutor.exists_createProfile hcreate
    rw [hquiet.tutor_eq, hcreated]
    exact .of_eq rfl rfl rfl
  | deletes hquiet =>
    rw [hquiet.tutor_eq]
    exact .deleteProfile _ _ _
  | quiz hquiz hquiet =>
    rw [hquiet.tutor_eq]
    exact .recordQuiz hquiz
  | opens htutor _ =>
    rw [htutor]
    exact .refl _ _
  | starts _ _ htutor _ =>
    rw [htutor]
    exact .refl _ _
  | terminal hstay htutor _ =>
    rw [htutor]
    exact writesFor_of_inSession_eq_stay hstay
  | talks _ htutor _ =>
    rw [htutor]
    exact .refl _ _
  | @goesOn learner s s' t' printed _ _ hstay htutor _ =>
    obtain ⟨hprofile, hlab, -⟩ := Session.of_place_eq (of_inSession_eq_stay hstay).1
    obtain ⟨lab, hinLab, v, hunlocked, -⟩ := h.visit _ _ hscreen
    rw [htutor]
    refine (writesFor_of_inSession_eq_stay hstay).trans (.advance (fun lab' hlab' => ?_) t' _ _)
    obtain rfl : lab = lab' := Option.some.inj (hinLab.symm.trans (hlab.symm.trans hlab'))
    exact ⟨learner, (hprofile.trans (h.profile_of_lab hscreen)).symm, ⟨s, hscreen, hinLab⟩, v,
      hunlocked⟩

/-! ### Calls -/

/-- **A call for a profile is backed by a history**: a tool was executed, or a lab completed.
Gates are not tried, and families not reviewed, but by completing labs. -/
def Backed (history : List TakenTurn) (profile : ProfileNumber) : LearnerCall → Prop
  | .tool name => ∃ x ∈ history, x.Executes profile name
  | .quiz _ _ => True
  | .gate _ _ _ _ => False
  | .lab _ lab => Completed history profile lab
  | .review _ _ _ => False

theorem Backed.mono {history' : List TakenTurn} {profile : ProfileNumber} {c : LearnerCall}
    (h : Backed history profile c) (hmore : history <+: history') : Backed history' profile c := by
  cases c with
  | tool name =>
    obtain ⟨x, hx, hexecutes⟩ := h
    exact ⟨x, hmore.subset hx, hexecutes⟩
  | quiz family score => exact h
  | gate family tier scenario passed => exact h
  | lab now lab => exact Completed.mono h hmore
  | review now family success => exact h

/-- The use of a tool is backed by a turn that executes it. -/
theorem Backed.exists_executes {profile : ProfileNumber} {c : LearnerCall} {name : String}
    (h : Backed history profile c) (huses : c.uses name = true) :
    ∃ x ∈ history, x.Executes profile name := by
  cases c with
  | tool used =>
    obtain rfl : used = name := by simpa [LearnerCall.uses] using huses
    exact h
  | quiz family score => simp [LearnerCall.uses] at huses
  | gate family tier scenario passed => exact h.elim
  | lab now lab => simp [LearnerCall.uses] at huses
  | review now family success => exact h.elim

/-- A gate is backed by a lab that was completed. -/
theorem Backed.exists_completed {profile : ProfileNumber} {c : LearnerCall} {g : GateResult}
    (h : Backed history profile c) (hg : c.gate? = some g) :
    ∃ lab, lab.gate = g ∧ Completed history profile lab := by
  cases c with
  | tool used => simp [LearnerCall.gate?] at hg
  | quiz family score => simp [LearnerCall.gate?] at hg
  | gate family tier scenario passed => exact h.elim
  | lab now lab => exact ⟨lab, Option.some.inj hg, h⟩
  | review now family success => exact h.elim

/-- **What a store knows of each profile is accounted for**: it is what calls for the profile
have left, each of them backed by the history. -/
def Accounted (families : Families) (history : List TakenTurn) (t : Tutor) : Prop :=
  ∀ profile, ∃ cs, HighWater families profile cs t ∧ ∀ c ∈ cs, Backed history profile c

namespace Accounted

variable {families : Families}

theorem of_empty (h : t.store = {}) : Accounted t.families [] t := by
  intro profile
  have hnothing : t.store.KnowsNothingOf profile := by
    rw [h]
    exact ⟨fun _ => rfl, fun _ => rfl, fun _ => rfl, fun _ => rfl⟩
  exact ⟨[], hnothing.highWater, fun c hc => absurd hc List.not_mem_nil⟩

theorem mono {history' : List TakenTurn} (h : Accounted families history t)
    (hmore : history <+: history') : Accounted families history' t := by
  intro profile
  obtain ⟨cs, hwater, hbacked⟩ := h profile
  exact ⟨cs, hwater, fun c hc => (hbacked c hc).mono hmore⟩

theorem congr (h : Accounted families history t) (hfamilies : t'.families = t.families)
    (hfacts : ∀ profile, Store.SameFactsOf profile t.store t'.store) :
    Accounted families history t' := by
  intro profile
  obtain ⟨cs, hwater, hbacked⟩ := h profile
  exact ⟨cs, hwater.congr hfamilies (hfacts profile), hbacked⟩

/-- A call that is backed goes into the account of its profile. -/
theorem call {profile : ProfileNumber} {c : LearnerCall} (h : Accounted families history t)
    (hkeyed : families.Keyed) (hstep : FactStep t profile c t')
    (hc : Backed history profile c) : Accounted families history t' := by
  intro other
  obtain ⟨cs, hwater, hbacked⟩ := h other
  by_cases hother : other = profile
  · subst hother
    refine ⟨cs ++ [c], hwater.step hkeyed hstep, fun c' hc' => ?_⟩
    rcases List.mem_append.1 hc' with hc' | hc'
    · exact hbacked c' hc'
    · obtain rfl := List.mem_singleton.1 hc'
      exact hc
  · exact ⟨cs, hwater.congr hstep.families_eq (hstep.sameFactsOf hother), hbacked⟩

/-- The account of a profile that is deleted is closed. -/
theorem deleteProfile (h : Accounted families history t) (profile : ProfileNumber) :
    Accounted families history (t.deleteProfile profile).1 := by
  intro other
  obtain ⟨cs, hwater, hbacked⟩ := h other
  by_cases hother : other = profile
  · subst hother
    have hnothing := t.store.knowsNothingOf_deleteProfile other
    obtain rfl := hwater.families_eq
    exact ⟨[], hnothing.highWater (t := (t.deleteProfile other).1),
      fun c hc => absurd hc List.not_mem_nil⟩
  · exact ⟨cs, hwater.congr rfl (.deleteProfile hother t.store), hbacked⟩

/-- A line of the turn that is taken last is accounted for. -/
theorem line (h : Accounted families (history ++ [x]) x.before) (hkeyed : families.Keyed)
    (hsession : x.screen.session? = some (learner, s)) (hprofile : s.profile = learner.id)
    (hlabWord : x.screen = .lab learner s → isLabWord (menuWord x.line.text) = false)
    (hstay : inSession x.before s x.line.text = .stay t' s' printed) :
    Accounted families (history ++ [x]) t' := by
  obtain ⟨-, rfl | ⟨hword, hexecutes, rfl⟩⟩ := of_inSession_eq_stay hstay
  · exact h
  · refine h.call hkeyed .tool ⟨x, List.mem_append_right _ (List.mem_singleton_self x), ?_⟩
    exact ⟨learner, s, hsession, hprofile.symm, hword, hlabWord, hexecutes, rfl⟩

/-- Going on in a lab is accounted for, provided that the lab is completed if its last step is
passed. -/
theorem advance (h : Accounted families history t) (hkeyed : families.Keyed)
    (hcompleted : ∀ lab step, s.lab = some lab → lab.steps[s.stepIndex]? = some step →
      (s.scoreOf step).passed = true → s.stepIndex + 1 = lab.steps.length →
      Completed history s.profile lab) (now : Instant) (clock : Magnitude) :
    Accounted families history (s.advance t now clock).tutor := by
  have hrun := Session.advanceRun_advance s t now clock
  generalize s.advance t now clock = a at hrun ⊢
  cases hrun with
  | stays _ => exact h
  | goesOn _ _ _ _ => exact h.congr rfl fun _ => .of_eq rfl rfl rfl rfl
  | @completes lab step hlab hstep hscore hlast =>
    have hnoted : Accounted families history (s.notingPass t lab step) :=
      h.congr rfl fun _ => .of_eq rfl rfl rfl rfl
    exact hnoted.call hkeyed (Tutor.factStep_lab _ s.profile now lab)
      (hcompleted lab step hlab hstep hscore hlast)

/-- **Every turn keeps the accounts.** -/
theorem step (h : Accounted families history x.before) (hkeyed : families.Keyed)
    (hscreen : AtScreen history x.before x.screen) :
    Accounted families (history ++ [x]) x.after := by
  have hrun := x.turnRun
  replace h := h.mono (List.prefix_append history [x])
  rw [show x.after = x.turn.tutor from rfl]
  generalize hat : x.screen = screen at hrun
  generalize hturn : x.turn = turn at hrun ⊢
  cases hrun with
  | quiet hquiet =>
    rw [hquiet.tutor_eq]
    exact h
  | creates hcreate hquiet =>
    obtain ⟨profiles, lastId, hcreated⟩ := Tutor.exists_createProfile hcreate
    rw [hquiet.tutor_eq, hcreated]
    exact h.congr rfl fun _ => .of_eq rfl rfl rfl rfl
  | deletes hquiet =>
    rw [hquiet.tutor_eq]
    exact h.deleteProfile _
  | @quiz learner family score r _ hquiz hquiet =>
    have hcall : x.before.call learner.id (.quiz family.id score) = r.1 := by
      simp [Tutor.call, hquiz]
    rw [hquiet.tutor_eq, ← hcall]
    exact h.call hkeyed (Tutor.factStep_quiz _ _ _ _) trivial
  | opens htutor _ =>
    rw [htutor]
    exact h
  | starts _ _ htutor _ =>
    rw [htutor]
    exact h
  | @terminal learner s s' t' printed _ hstay htutor _ =>
    have hsession : x.screen.session? = some (learner, s) := by
      rw [hat]
      rfl
    rw [htutor]
    refine h.line hkeyed hsession (hscreen.profile_eq _ _ hsession) (fun hlab => ?_) hstay
    exact Screen.noConfusion (hat.symm.trans hlab)
  | talks _ htutor _ =>
    rw [htutor]
    exact h
  | @goesOn learner s s' t' printed _ hword hstay htutor _ =>
    have hsession : x.screen.session? = some (learner, s) := by
      rw [hat]
      rfl
    rw [htutor]
    have hline := h.line hkeyed hsession (hscreen.profile_of_lab hat) (fun _ => hword) hstay
    exact hline.advance hkeyed
      (fun _ _ hlab hstep hscore hlast =>
        completed_of_stay hscreen hat hword hstay hlab hstep hscore hlast) _ _

end Accounted

theorem Reached.accounted {t₀ : Tutor} {next : Next} (h : Reached t₀ history t next)
    (hkeyed : t₀.families.Keyed) (hempty : t₀.store = {}) :
    Accounted t₀.families history t := by
  induction h with
  | start => exact .of_empty hempty
  | turn hx ih => exact ih.step hkeyed hx.atScreen

/-! ### The whole shell -/

/-- **What the third tier of a family says of the accounts.** -/
theorem Accounted.of_third_tier {families : Families} {profile : ProfileNumber} {id : String} {f : Family}
    (h : Accounted families history t) (hkeyed : families.Keyed)
    (hf : families.get? id = some f) (htier : t.store.tiers.get? (profile, id) = some 3) :
    (∃ best, t.store.quizzes.get? (profile, id) = some best ∧
      Binary64.intLe quizThreshold best.score = true) ∧
    (∀ name ∈ f.toolNames, ∃ x ∈ history, x.Executes profile name) ∧
    ∃ lab, lab.family = id ∧ lab.tier = 2 ∧ Completed history profile lab := by
  obtain ⟨cs, hwater, hbacked⟩ := h profile
  obtain rfl := hkeyed id f hf
  have hrecorded : t.recordedTier profile f.id = 3 := by
    simp [Tutor.recordedTier, TierFacts.recordedTier, Store.tierFacts, htier]
  -- At some moment of the calls the third tier was earned.
  obtain ⟨earlier, hearlier, hearned⟩ := (hwater.isGreatest f.id f hf).1
  rw [hrecorded] at hearned
  obtain ⟨hquiz, htools, c, hc, g, hg, hfamily, htwo⟩ := of_earnedBy_eq_three hearned
  refine ⟨?_, fun name hname => ?_, ?_⟩
  · have hpassed : cs.any (·.passesQuiz f.id) = true := by
      obtain ⟨c, hc, hpasses⟩ := List.any_eq_true.1 hquiz
      exact List.any_eq_true.2 ⟨c, hearlier.subset hc, hpasses⟩
    have hknown : families.contains f.id = true := by simp [OrderedMap.contains, hf]
    rw [← hwater.remembers.quizzes f.id hknown] at hpassed
    exact (Option.any_eq_true _ _).1 hpassed
  · obtain ⟨c, hc, huses⟩ := htools name hname
    exact (hbacked c (hearlier.subset hc)).exists_executes huses
  · obtain ⟨lab, rfl, hcompleted⟩ := (hbacked c (hearlier.subset hc)).exists_completed hg
    exact ⟨lab, hfamily, htwo, hcompleted⟩

/-- **The shell does not go round the tiers.** On a store that is empty at first, whatever is
typed:

* each step result, gate and review entry that a turn writes is of a lab that the learner is
  visiting, and whose tier was unlocked for the learner when the visit began;
* if the third tier of a family is recorded for a profile, then its best quiz score of the
  family is a pass, every tool of the family was executed for the profile, and the profile has
  completed a lab of the second tier of the family that was unlocked when it was started. -/
theorem tiers_not_bypassed {t : Tutor} {v : Value} (hv : Families.ofValue v = .ok t.families)
    (hempty : t.store = {}) (lines : List TypedLine) :
    (∀ earlier x later, taken t lines = earlier ++ x :: later →
      Store.WritesFor (Visiting earlier x) x.before.store x.after.store) ∧
    ∀ profile id f, t.families.get? id = some f →
      (perform t lines).tutor.store.tiers.get? (profile, id) = some 3 →
        (∃ best, (perform t lines).tutor.store.quizzes.get? (profile, id) = some best ∧
          Binary64.intLe quizThreshold best.score = true) ∧
        (∀ name ∈ f.toolNames, ∃ x ∈ taken t lines, x.Executes profile name) ∧
        ∃ lab, lab.family = id ∧ lab.tier = 2 ∧ Completed (taken t lines) profile lab := by
  obtain ⟨next, hreached⟩ := reached_perform t lines
  have hkeyed := Families.keyed_of_ofValue hv
  refine ⟨fun earlier x later hsplit => ?_, fun profile id f hf htier => ?_⟩
  · rw [hsplit] at hreached
    exact hreached.of_append_cons.atScreen.writesFor
  · exact (hreached.accounted hkeyed hempty).of_third_tier hkeyed hf htier

/-- A tutor with one lab, of the second tier. -/
def tourGuide : Tutor := { LabRun.guide with labs := .ofList [("tour", LabRun.tour 2)] }

/-- A learner who passes the quiz and uses the tool, and then goes through the lab. -/
def tourLines : List TypedLine :=
  ["n", "ann", "5", "1", "80", "1", "nvtop", ":b", "2", "1", "nvtop"].map fun text => ⟨text, {}⟩

/-- The third tier is reached in this way. -/
theorem third_tier_of_tour :
    (perform tourGuide tourLines).tutor.store.tiers.get? (1, "viewer") = some 3 ∧
    (∃ x ∈ taken tourGuide tourLines, x.Executes 1 "nvtop") ∧
    ∃ lab, lab.family = "viewer" ∧ lab.tier = 2 ∧ Completed (taken tourGuide tourLines) 1 lab := by
  have hread : Families.ofValue (.object [("families", .array [.object [("id", .string "viewer"),
      ("name", .string "Viewer"), ("tools", .array [.object [("name", .string "nvtop")]])]])]) =
      .ok tourGuide.families := rfl
  have htier : (perform tourGuide tourLines).tutor.store.tiers.get? (1, "viewer") = some 3 := by
    decide +kernel
  obtain ⟨-, hthird⟩ := tiers_not_bypassed hread rfl tourLines
  obtain ⟨-, htools, hlab⟩ := hthird 1 "viewer" .viewer rfl htier
  exact ⟨htier, htools "nvtop" (List.mem_singleton_self _), hlab⟩

end ClusterTutor.Shell
