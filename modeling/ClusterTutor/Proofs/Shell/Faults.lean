import ClusterTutor.Program
import ClusterTutor.Proofs.Content.Labs
import ClusterTutor.Proofs.Shell.Leads
import ClusterTutor.Proofs.Shell.Sessions
import ClusterTutor.Proofs.Shell.TierGates

/-!
# What breaks the shell

The shell has an answer to nearly everything that may be typed. It breaks on four kinds of
lines only (`ClusterTutor.Shell.TakenTurn.Breaks`):

| at the screen | the line |
|---|---|
| `profiles`, `deletion`, `labs`, `families` | looks like a number and cannot be read as one |
| `terminal`, `lab` | runs a command with an overlong number |
| `lab` | completes the lab when the calendar has no day left for the review |
| `profileName` | is the name of a new profile when the numbers of profiles are used up |

All other faults are out of reach with the content that comes with the tutor, whatever the
commands and whatever is remembered: the learner at a screen is one of the profiles, a quiz is
on one of the families, the names of fields are texts, and the labs are sound
(`ClusterTutor.Shell.SoundAt`). So a performance ends as it should, unless a line of one of
these kinds is typed (`ClusterTutor.Shell.performance_endsWell_iff`).
-/

namespace ClusterTutor

/-- A tutor with the families and labs that come with it, with some commands, and with what is
remembered of the learners. -/
def Tutor.remembering (catalogue : Catalogue) (store : Store) : Tutor :=
  { Tutor.withCatalogue catalogue with store }

namespace Shell

variable {t t' t₀ : Tutor} {m : Moment} {learner : Profile} {s : Session} {family : Family}
  {line : String} {printed : List String} {screen : Screen} {fault : ShellFault}
  {history : List TakenTurn} {x : TakenTurn}

/-! ### What holds at a screen -/

/-- **What keeps most faults out of reach** at a screen. -/
structure SoundAt (t : Tutor) (screen : Screen) : Prop where
  /-- The learner is one of the profiles. -/
  mem_profiles : ∀ learner, screen.learner? = some learner → learner ∈ t.store.profiles
  /-- The quiz is on one of the families. -/
  family : ∀ family, screen.family? = some family → t.families.contains family.id = true
  /-- The fields of the state of a session have texts as names. -/
  named : ∀ learner s, screen.session? = some (learner, s) → s.state.Named
  /-- The numbers in the state of a session can be shown. -/
  showable : ∀ learner s, screen.session? = some (learner, s) → s.state.Showable
  /-- The lab of a session is sound. -/
  lab : ∀ learner s, screen.session? = some (learner, s) → ∀ lab, s.lab = some lab → lab.Sound

/-- The quizzes of the shell are on the families of its tutor. -/
theorem Reached.mem_families (h : Reached t₀ history t (.ask screen))
    (hfamily : screen.family? = some family) : family ∈ t₀.families.values := by
  generalize hlast : Next.ask screen = last at h
  cases h with
  | start =>
    obtain rfl := Next.ask.inj hlast
    cases hfamily
  | @turn _ x hx =>
    have hleads : Leads x.before x.line.moment x.line.text x.screen x.turn.next :=
      leads_answer x.before x.screen x.line.moment x.line.text
    rw [← hlast] at hleads
    generalize x.screen = before at hleads
    cases hleads with
    | asks hnone =>
      rw [hnone] at hfamily
      cases hfamily
    | asksScore hmem =>
      obtain rfl := Option.some.inj hfamily
      rw [← Tutor.families_eq_of_content_eq hx.content_eq]
      exact hmem

/-- **With sound labs and families under their own names, every screen is sound.** -/
theorem Reached.soundAt (h : Reached t₀ history t (.ask screen))
    (hlabs : ∀ lab ∈ t₀.labs.values, lab.Sound)
    (hfamilies : ∀ f ∈ t₀.families.values, t₀.families.contains f.id = true) :
    SoundAt t screen where
  mem_profiles := h.atScreen.mem_profiles
  family family hfamily := by
    rw [Tutor.families_eq_of_content_eq h.content_eq]
    exact hfamilies family (h.mem_families hfamily)
  named learner s hsession :=
    ((h.within learner s hsession).throughout Definition.keep_named Content.named_machines
      fun lab hlab => Content.named_machines.overlay (hlabs lab hlab).named).state
  showable learner s hsession :=
    ((h.within learner s hsession).throughout Definition.keep_showable Content.showable_machines
      fun lab hlab => Content.showable_machines.overlay (hlabs lab hlab).showable).state
  lab learner s hsession lab hlab := hlabs lab ((h.within learner s hsession).mem_labs hlab)

/-! ### Turns that break the shell -/

/-- **A turn breaks the shell** with a fault. -/
inductive TakenTurn.Breaks (x : TakenTurn) : ShellFault → Prop
  /-- Something is chosen by a word that looks like a number and cannot be read as one. -/
  | misread {fault : Numeral.Fault} : x.screen.isChoice = true →
    Numeral.Misread (menuWord x.line.text) fault → x.Breaks (.numeral fault)
  /-- A line, which is no word of the session or of a lab, runs a command with an overlong
  number. -/
  | overlong {learner : Profile} {s : Session} : x.screen.TypedInto x.line.text learner s →
    isSessionWord (menuWord x.line.text) = false →
    x.before.catalogue.RunsOverlong x.line.text → x.Breaks (.line (.numeral .tooLong))
  /-- After a line of a lab, the lab is completed when the calendar has no day left for the
  review. -/
  | late {learner : Profile} {s s' : Session} {t' : Tutor} {printed : List String} :
    x.screen = .lab learner s → isLabWord (menuWord x.line.text) = false →
    inSession x.before s x.line.text = .stay t' s' printed →
    s'.CompletesLate t' x.line.moment.now → x.Breaks (.store .afterCalendar)
  /-- A profile is to be created, and no number is left for it. -/
  | full : x.screen = .profileName → Text.isBlankText x.line.text = false →
    ProfileNumber.ofInt? (x.before.store.lastId + 1) = none → x.Breaks (.store .full)

theorem TakenTurn.Breaks.ne_endOfInput (h : x.Breaks fault) : fault ≠ .endOfInput := by
  cases h <;> exact ShellFault.noConfusion

/-- A fault at a sound screen breaks the shell. -/
theorem SoundAt.breaks_of_fail (h : SoundAt x.before x.screen) (hfail : x.turn.next = .fail fault) :
    x.Breaks fault := by
  obtain ⟨t, screen, line⟩ := x
  have hleads := leads_answer t screen line.moment line.text
  rw [show (answer t screen line.moment line.text).next = .fail fault from hfail] at hleads
  cases hleads with
  | misread hchoice hword => exact .misread hchoice hword
  | full hname hfull => exact .full rfl hname hfull
  | noProfile hlearner hnone =>
    have hmem := h.mem_profiles _ hlearner
    have hother := List.find?_eq_none.1 hnone _ hmem
    simp at hother
  | faultyLine htyped hline =>
    obtain ⟨hword, rfl, hoverlong⟩ :=
      (inSession_eq_fault_iff (h.named _ _ htyped.session)).1 ⟨_, _, hline⟩
    exact .overlong htyped hword hoverlong
  | @faultyHint learner s fault hhint =>
    have hlab := h.lab learner s rfl
    obtain ⟨shown, hshown⟩ := Session.exists_revealHint hlab line.moment.clock
    obtain ⟨text, htext⟩ := Session.exists_hintLine hlab line.moment.clock
    rw [hshown, htext] at hhint
    exact absurd hhint (by simp)
  | @refused learner s s' t' printed fault hword hline hscore =>
    obtain ⟨-, hsame, -⟩ := Session.of_place_eq (of_inSession_eq_stay hline).1
    have hfits : ∀ lab, s'.lab = some lab → fitsStore lab.tier = true :=
      fun lab hlab => (h.lab learner s rfl lab (hsame.symm.trans hlab)).tier
    obtain ⟨rfl, hlate⟩ := (Session.score_advance_eq_error_iff hfits _ _ _ _).1 hscore
    exact .late rfl hword hline hlate
  | noFamily hnone =>
    rw [h.family _ rfl] at hnone
    cases hnone

/-- A word that is misread is a fault at every screen with a choice. -/
theorem fail_of_misread {fault : Numeral.Fault} (hchoice : screen.isChoice = true)
    (h : Numeral.Misread (menuWord line) fault) :
    (answer t screen m line).next = .fail (.numeral fault) := by
  have hn : menuWord line ≠ "n" := h.ne_of_letter (by decide +kernel)
  have hd : menuWord line ≠ "d" := h.ne_of_letter (by decide +kernel)
  have hquit : menuWord line ≠ "q" := h.ne_of_letter (by decide +kernel)
  have hback : menuWord line ≠ "b" := h.ne_of_letter (by decide +kernel)
  have hq : isQuit (menuWord line) = false := by simpa [isQuit] using hquit
  have hb : isBack (menuWord line) = false := by simpa [isBack] using hback
  cases screen with
  | profiles => simp [answer, atProfiles, hn, hd, hq, chosen?_eq_error_iff.2 h, fail]
  | deletion => simp [answer, atDeletion, hb, chosen?_eq_error_iff.2 h, fail]
  | labs learner => simp [answer, atLabs, hb, hq, chosen?_eq_error_iff.2 h, fail]
  | families learner => simp [answer, atFamilies, hb, chosen?_eq_error_iff.2 h, fail]
  | _ => cases hchoice

/-- A line that is a fault in its session is a fault of the shell. -/
theorem fail_of_inSession_eq_fault (htyped : screen.TypedInto line learner s)
    (h : inSession t s line = .fault t' printed fault) :
    (answer t screen m line).next = .fail fault := by
  have hsession := htyped.session
  cases screen with
  | terminal learner' s' =>
    obtain ⟨rfl, rfl⟩ := Prod.ext_iff.1 (Option.some.inj hsession)
    simp [answer, atTerminal, h, fail, Turn.printing]
  | lab learner' s' =>
    obtain ⟨rfl, rfl⟩ := Prod.ext_iff.1 (Option.some.inj hsession)
    have hword := htyped.seen rfl
    simp only [isLabWord, Bool.or_eq_false_iff] at hword
    simp [answer, atLab, hword.1, hword.2, h, fail, Turn.printing]
  | _ => cases hsession

/-- **At a sound screen, a turn is a fault exactly if it breaks the shell.** -/
theorem SoundAt.next_eq_fail_iff (h : SoundAt x.before x.screen) :
    x.turn.next = .fail fault ↔ x.Breaks fault := by
  refine ⟨h.breaks_of_fail, fun hbreaks => ?_⟩
  cases hbreaks with
  | misread hchoice hword => exact fail_of_misread hchoice hword
  | overlong htyped hword hoverlong =>
    obtain ⟨t', printed, hline⟩ :=
      (inSession_eq_fault_iff (h.named _ _ htyped.session)).2 ⟨hword, rfl, hoverlong⟩
    exact fail_of_inSession_eq_fault htyped hline
  | @late learner s s' t' printed hscreen hword hline hlate =>
    obtain ⟨-, hsame, -⟩ := Session.of_place_eq (of_inSession_eq_stay hline).1
    have hfits : ∀ lab, s'.lab = some lab → fitsStore lab.tier = true := by
      intro lab hlab
      refine (h.lab learner s ?_ lab (hsame.symm.trans hlab)).tier
      rw [hscreen]
      rfl
    have hscore := (Session.score_advance_eq_error_iff hfits t' x.line.moment.now
      x.line.moment.clock .afterCalendar).2 ⟨rfl, hlate⟩
    simp only [isLabWord, Bool.or_eq_false_iff] at hword
    simp [TakenTurn.turn, hscreen, answer, atLab, hword.1, hword.2, hline, afterLine, hscore, fail,
      Turn.printing]
  | full hscreen hname hfull =>
    simp [TakenTurn.turn, hscreen, answer, atProfileName, hname, Tutor.createProfile,
      Store.createProfile, hfull, Except.map, fail]

/-! ### Performances -/

/-- **A performance ends as it should**: the learner leaves, or there are no more lines. -/
def Performance.EndsWell (p : Performance) : Prop :=
  p.fault = none ∨ p.fault = some .endOfInput ∧ p.unread = []

/-- A performance ends with a fault exactly if one of its turns does. -/
theorem fault_performFrom_iff (hfault : fault ≠ .endOfInput) (lines : List TypedLine) :
    (performFrom t screen lines).fault = some fault ↔
      ∃ x ∈ takenFrom t screen lines, x.turn.next = .fail fault := by
  induction lines generalizing t screen with
  | nil => simpa [performFrom, takenFrom] using hfault.symm
  | cons line lines ih =>
    have hturn : (TakenTurn.turn ⟨t, screen, line⟩) = answer t screen line.moment line.text := rfl
    cases hnext : (answer t screen line.moment line.text).next with
    | ask next =>
      simp [performFrom, takenFrom, TakenTurn.after, hturn, hnext, Performance.preceded, ih]
    | leave => simp [performFrom, takenFrom, hturn, hnext]
    | fail fault' => simp [performFrom, takenFrom, hturn, hnext]

/-- A performance of which no turn is a fault ends as it should. -/
theorem endsWell_performFrom (lines : List TypedLine)
    (h : ∀ x ∈ takenFrom t screen lines, ∀ fault, x.turn.next ≠ .fail fault) :
    (performFrom t screen lines).EndsWell := by
  induction lines generalizing t screen with
  | nil => exact .inr ⟨rfl, rfl⟩
  | cons line lines ih =>
    have hturn : (TakenTurn.turn ⟨t, screen, line⟩) = answer t screen line.moment line.text := rfl
    cases hnext : (answer t screen line.moment line.text).next with
    | ask next =>
      simp only [takenFrom, hturn, hnext, List.forall_mem_cons] at h
      simpa [performFrom, hturn, hnext, Performance.preceded, Performance.EndsWell,
        TakenTurn.after] using ih h.2
    | leave => exact .inl (by simp [performFrom, hnext])
    | fail fault =>
      refine absurd (h ⟨t, screen, line⟩ ?_ fault) (by simp [hturn, hnext])
      simp [takenFrom]

/-- The families that come with the tutor stand under their own names. -/
theorem contains_families :
    ∀ f ∈ Content.families.values, Content.families.contains f.id = true := by
  decide +kernel

/-- **The shell ends as it should, unless a line breaks it.** With any commands, whatever is
remembered and whatever is typed at whatever moments:

* the learner leaves, or all lines are read, exactly if no turn breaks the shell;
* any other fault is that of a turn that breaks it;
* the numbers in the states that the shell comes to can be shown. -/
theorem performance_endsWell_iff (c : Catalogue) (store : Store) (lines : List TypedLine) :
    ((perform (.remembering c store) lines).EndsWell ↔
      ∀ x ∈ taken (.remembering c store) lines, ∀ fault, ¬x.Breaks fault) ∧
    (∀ fault, (perform (.remembering c store) lines).fault = some fault ∧ fault ≠ .endOfInput ↔
      ∃ x ∈ taken (.remembering c store) lines, x.Breaks fault) ∧
    ∀ x ∈ taken (.remembering c store) lines, ∀ learner s,
      x.screen.session? = some (learner, s) → s.state.Showable := by
  generalize ht : Tutor.remembering c store = t
  have hsound : ∀ x ∈ taken t lines, SoundAt x.before x.screen := by
    intro x hx
    obtain ⟨earlier, later, hsplit⟩ := List.append_of_mem hx
    obtain ⟨next, hreached⟩ := reached_perform t lines
    rw [hsplit] at hreached
    refine hreached.of_append_cons.soundAt ?_ ?_
    · rw [← ht]
      exact Content.sound_labs
    · rw [← ht]
      exact contains_families
  have hfault : ∀ fault, (perform t lines).fault = some fault ∧ fault ≠ .endOfInput ↔
      ∃ x ∈ taken t lines, x.Breaks fault := by
    intro fault
    constructor
    · rintro ⟨hfault, hne⟩
      obtain ⟨x, hx, hfail⟩ := (fault_performFrom_iff hne lines).1 hfault
      exact ⟨x, hx, (hsound x hx).next_eq_fail_iff.1 hfail⟩
    · rintro ⟨x, hx, hbreaks⟩
      have hfail := (hsound x hx).next_eq_fail_iff.2 hbreaks
      exact ⟨(fault_performFrom_iff hbreaks.ne_endOfInput lines).2 ⟨x, hx, hfail⟩,
        hbreaks.ne_endOfInput⟩
  refine ⟨⟨fun hends x hx fault hbreaks => ?_, fun hnone => ?_⟩, hfault, ?_⟩
  · obtain ⟨hbroken, hne⟩ := (hfault fault).2 ⟨x, hx, hbreaks⟩
    rcases hends with hleft | ⟨hover, -⟩
    · rw [hleft] at hbroken
      cases hbroken
    · exact hne (Option.some.inj (hbroken.symm.trans hover))
  · exact endsWell_performFrom lines fun x hx fault hfail =>
      hnone x hx fault ((hsound x hx).next_eq_fail_iff.1 hfail)
  · exact fun x hx => (hsound x hx).showable

/-- A superscript looks like a digit, and no number has one. -/
theorem superscript_breaks_shell :
    (perform .standard [⟨"²", {}⟩, ⟨"q", {}⟩]).fault = some (.numeral .malformed) ∧
      ¬(perform .standard [⟨"²", {}⟩, ⟨"q", {}⟩]).EndsWell := by
  have hfault : (perform .standard [⟨"²", {}⟩, ⟨"q", {}⟩]).fault = some (.numeral .malformed) := by
    decide +kernel
  refine ⟨hfault, ?_⟩
  rintro (hleft | ⟨hover, -⟩)
  · rw [hfault] at hleft
    cases hleft
  · rw [hfault] at hover
    cases hover

end Shell

end ClusterTutor
