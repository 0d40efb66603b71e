import ClusterTutor.Content.Labs
import ClusterTutor.Proofs.Session.ShownNumbers
import ClusterTutor.Tier.Basic

/-!
# The labs of the tutor are sound

A lab is kept as it stands in the content, and some of what it says is checked only when it is
needed: what the triggers of its hints are compared with, whether its tier fits into the store,
and how the fields of its machines can be shown. The hints of a step can be evaluated exactly if
those that are not revealed have triggers that compare numbers
(`ClusterTutor.Session.exists_hintLine_iff`).

A lab in which all this is well is *sound* (`ClusterTutor.Lab.Sound`); its hints can always be
evaluated (`ClusterTutor.Session.exists_revealHint`). The labs that come with the tutor are sound
(`ClusterTutor.Content.sound_labs`).
-/

namespace ClusterTutor

/-! ### Triggers with numbers -/

namespace HintTrigger

/-- Whether what a trigger is compared with is a number, where it is compared at all: a threshold
is looked at by triggers of its kind only. -/
def comparesNumbers (t : HintTrigger) : Bool :=
  match t.kind with
  | .string "time" =>
    match t.seconds with
    | .null => true
    | seconds => seconds.magnitude?.isSome
  | .string "attempts" => !t.count.truthy || t.count.magnitude?.isSome
  | _ => true

/-- Whether both thresholds of a trigger are numbers, if they are there, whatever its kind is. -/
def isNumeric (t : HintTrigger) : Bool :=
  (match t.seconds with
    | .null => true
    | seconds => seconds.magnitude?.isSome) &&
  (!t.count.truthy || t.count.magnitude?.isSome)

theorem comparesNumbers_of_isNumeric {t : HintTrigger} (h : t.isNumeric = true) :
    t.comparesNumbers = true := by
  obtain ⟨hseconds, hcount⟩ := Bool.and_eq_true_iff.1 h
  unfold comparesNumbers
  split
  · exact hseconds
  · exact hcount
  · rfl

end HintTrigger

theorem exists_reached_iff {threshold : Value} {measured : Magnitude} :
    (∃ b, reached threshold measured = .ok b) ↔ threshold.magnitude?.isSome = true := by
  unfold reached
  cases threshold.magnitude? <;> simp

/-- **It can be said whether a trigger is met** exactly if it compares numbers. -/
theorem HintTrigger.exists_isMet_iff {t : HintTrigger} {a : StepActivity} :
    (∃ b, t.isMet a = .ok b) ↔ t.comparesNumbers = true := by
  unfold isMet comparesNumbers
  split
  · rename_i hkind
    rw [hkind]
    exact iff_of_true ⟨true, rfl⟩ rfl
  · rename_i hkind
    rw [hkind]
    cases t.seconds with
    | null => exact iff_of_true ⟨false, rfl⟩ rfl
    | _ => exact exists_reached_iff
  · rename_i hkind
    rw [hkind]
    cases t.count.truthy with
    | false => exact iff_of_true ⟨false, rfl⟩ rfl
    | true => exact exists_reached_iff
  · rename_i hkind
    rw [hkind]
    exact iff_of_true ⟨_, rfl⟩ rfl
  · rename_i _ htime hattempts _
    refine iff_of_true ⟨false, rfl⟩ ?_
    split
    · exact absurd ‹_› htime
    · exact absurd ‹_› hattempts
    · rfl

namespace Hint

variable {a : StepActivity}

/-- **It can be said whether a hint is available** if it was revealed, and otherwise exactly if
its trigger compares numbers. -/
theorem exists_isAvailable_iff {h : Hint} :
    (∃ b, h.isAvailable a = .ok b) ↔ h.id ∈ a.revealed ∨ h.trigger.comparesNumbers = true := by
  rw [← HintTrigger.exists_isMet_iff (a := a), isAvailable]
  split
  · rename_i hrevealed
    exact iff_of_true ⟨true, rfl⟩ (.inl ((NameSet.contains_iff _ _).1 hrevealed))
  · rename_i hrevealed
    rw [NameSet.contains_iff] at hrevealed
    rw [or_iff_right hrevealed]
    cases h.trigger.isMet a with
    | ok met =>
      refine iff_of_true ?_ ⟨met, rfl⟩
      cases met <;> exact ⟨_, rfl⟩
    | error fault => simp [bind, Except.bind]

theorem exists_isAvailable {h : Hint} (hnumeric : h.trigger.isNumeric = true) (a : StepActivity) :
    ∃ b, h.isAvailable a = .ok b :=
  exists_isAvailable_iff.2 (.inr (HintTrigger.comparesNumbers_of_isNumeric hnumeric))

theorem exists_filterAvailable_iff {hs : List Hint} :
    (∃ available, filterAvailable a hs = .ok available) ↔
      ∀ h ∈ hs, ∃ b, h.isAvailable a = .ok b := by
  induction hs with
  | nil => simp [filterAvailable]
  | cons h hs ih =>
    rw [List.forall_mem_cons, ← ih, filterAvailable]
    constructor
    · rintro ⟨available, havailable⟩
      obtain ⟨b, hb, havailable⟩ := bind_eq_ok.1 havailable
      obtain ⟨rest, hrest, -⟩ := bind_eq_ok.1 havailable
      exact ⟨⟨b, hb⟩, rest, hrest⟩
    · rintro ⟨⟨b, hb⟩, rest, hrest⟩
      exact ⟨_, by rw [hb, hrest]; rfl⟩

end Hint

/-- **It can be said how hints stand** exactly if it can be said of each whether it is
available. -/
theorem HintStatus.exists_of_iff {hs : List Hint} {a : StepActivity} :
    (∃ status, of hs a = .ok status) ↔ ∀ h ∈ hs, ∃ b, h.isAvailable a = .ok b := by
  have hordered : (∀ h ∈ Hint.ordered hs, ∃ b, h.isAvailable a = .ok b) ↔
      ∀ h ∈ hs, ∃ b, h.isAvailable a = .ok b :=
    forall_congr' fun h => imp_congr_left List.mem_mergeSort
  rw [← hordered, ← Hint.exists_filterAvailable_iff, of]
  cases Hint.filterAvailable a (Hint.ordered hs) <;> simp [bind, Except.bind, pure, Except.pure]

namespace Hint

variable {hs : List Hint} {a : StepActivity} {status : HintStatus}

theorem revealNext_of_next {h : Hint} (hof : HintStatus.of hs a = .ok status)
    (hnext : status.next = some h) :
    revealNext hs a = .ok (some h, { a with revealed := a.revealed.insert h.id }) := by
  simp only [revealNext, hof, bind, Except.bind, hnext]
  rfl

theorem revealNext_of_none (hof : HintStatus.of hs a = .ok status) (hnext : status.next = none) :
    revealNext hs a = .ok (none, a) := by
  simp only [revealNext, hof, bind, Except.bind, hnext]
  rfl

end Hint

/-! ### Sound labs -/

/-- **A lab is sound** when nothing that it says can fail later. -/
structure Lab.Sound (lab : Lab) : Prop where
  /-- The store can hold the tier. -/
  tier : fitsStore lab.tier = true
  /-- The triggers of the hints are compared with numbers. -/
  hints : ∀ step ∈ lab.steps, ∀ hint ∈ step.hints, hint.trigger.isNumeric = true
  /-- The fields of the machines have texts as names. -/
  named : lab.initialState.Named
  /-- The numbers in the fields of the machines can be shown. -/
  showable : lab.initialState.Showable

namespace Session

variable {s : Session}

/-- The hints of the current step of a sound lab are compared with numbers. -/
theorem isNumeric_of_currentStep? (h : ∀ lab, s.lab = some lab → lab.Sound) {step : LabStep}
    (hstep : s.currentStep? = some step) : ∀ hint ∈ step.hints, hint.trigger.isNumeric = true := by
  obtain ⟨lab, hlab, hcurrent⟩ := Option.bind_eq_some_iff.1 hstep
  exact (h lab hlab).hints step (List.mem_of_getElem? hcurrent)

/-- **It can be said how the hints of a step stand** exactly if all that are not revealed compare
numbers. -/
theorem exists_hintLine_iff {step : LabStep} (hstep : s.currentStep? = some step)
    (clock : Magnitude) : (∃ text, s.hintLine clock = .ok text) ↔
      ∀ h ∈ step.hints, h.id ∈ s.revealed ∨ h.trigger.comparesNumbers = true := by
  have hstatus : (∃ status, HintStatus.of step.hints (s.activity clock) = .ok status) ↔ _ :=
    HintStatus.exists_of_iff
  simp only [Hint.exists_isAvailable_iff] at hstatus
  refine Iff.trans ?_ hstatus
  simp only [hintLine, hstep, map_eq_ok]
  exact ⟨fun ⟨_, status, hof, _⟩ => ⟨status, hof⟩, fun ⟨status, hof⟩ => ⟨_, status, hof, rfl⟩⟩

/-- **A hint of a step can be asked for** exactly if it can be said how the hints stand. -/
theorem exists_revealHint_iff (clock : Magnitude) :
    (∃ shown, s.revealHint clock = .ok shown) ↔ ∃ text, s.hintLine clock = .ok text := by
  cases hstep : s.currentStep? with
  | none => simp [revealHint, hintLine, hstep]
  | some step =>
    have hline : s.hintLine clock =
        (HintStatus.of step.hints (s.activity clock)).map HintStatus.line := by
      rw [hintLine, hstep]
    cases hof : HintStatus.of step.hints (s.activity clock) with
    | error fault =>
      have hnext : Hint.revealNext step.hints (s.activity clock) = .error fault := by
        rw [Hint.revealNext, hof]
        rfl
      simp only [revealHint, hstep, hline, hnext, hof]
      simp [bind, Except.bind, Except.map]
    | ok status =>
      rw [hof] at hline
      refine iff_of_true ?_ ⟨_, hline⟩
      cases hnext : status.next with
      | none =>
        simp only [revealHint, hstep, Hint.revealNext_of_none hof hnext, hline, bind, Except.bind]
        exact ⟨_, rfl⟩
      | some hint =>
        simp only [revealHint, hstep, Hint.revealNext_of_next hof hnext, bind, Except.bind]
        exact ⟨_, rfl⟩

/-- **In a sound lab it can be said how the hints stand.** -/
theorem exists_hintLine (h : ∀ lab, s.lab = some lab → lab.Sound) (clock : Magnitude) :
    ∃ text, s.hintLine clock = .ok text := by
  cases hstep : s.currentStep? with
  | none => exact ⟨noStep, by simp [hintLine, hstep]⟩
  | some step =>
    refine (exists_hintLine_iff hstep clock).2 fun hint hmem => .inr ?_
    exact HintTrigger.comparesNumbers_of_isNumeric (isNumeric_of_currentStep? h hstep hint hmem)

/-- **In a sound lab a hint can be asked for.** -/
theorem exists_revealHint (h : ∀ lab, s.lab = some lab → lab.Sound) (clock : Magnitude) :
    ∃ shown, s.revealHint clock = .ok shown :=
  (exists_revealHint_iff clock).2 (exists_hintLine h clock)

end Session

/-- **The labs that come with the tutor are sound.** -/
theorem Content.sound_labs : ∀ lab ∈ labs.values, lab.Sound := by
  have htiers : ∀ lab ∈ labs.values, fitsStore lab.tier = true := by decide +kernel
  have hhints : ∀ lab ∈ labs.values, ∀ step ∈ lab.steps, ∀ hint ∈ step.hints,
      hint.trigger.isNumeric = true := by decide +kernel
  have hfields : ∀ lab ∈ labs.values, ∀ d ∈ lab.initialState.toList, ∀ f ∈ d.2.toList,
      f.1.isText = true ∧ f.1.toValue.isShowable = true ∧ f.2.isShowable = true := by
    decide +kernel
  intro lab hlab
  have hnamed : lab.initialState.Named :=
    Snapshot.every_of_forall_mem fun d hd f hf => (hfields lab hlab d hd f hf).1
  have hshowable : lab.initialState.Showable :=
    Snapshot.every_of_forall_mem fun d hd f hf => (hfields lab hlab d hd f hf).2
  exact ⟨htiers lab hlab, hhints lab hlab, hnamed, hshowable⟩

end ClusterTutor
