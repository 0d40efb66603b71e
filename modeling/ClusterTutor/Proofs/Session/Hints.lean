import ClusterTutor.Proofs.Hint.NextHint
import ClusterTutor.Proofs.Session.LabRun
import ClusterTutor.Proofs.Text.NameSet

/-!
# Hints tell one story

A learner at a step of a lab asks how the hints stand, or for the next hint. The two questions are
answered by two functions, and each counts for itself: the status counts the revealed names that
are names of hints of the step, and the page of a hint is numbered by how many names are in the
set of the revealed ones. This module follows both through all calls of a step.

* At one moment (`ClusterTutor.Session.HintMoment`) there is either a next hint, which is
  announced and would be revealed, or none, and then revealing is answered by the status.
* From call to call (`ClusterTutor.LabRun.ShownHints`) the names in the set are those of the
  hints that were shown, each once. Lines and undoing do not touch the set, and going on either
  stays or leaves the step. So the pages are numbered one after another
  (`ClusterTutor.LabRun.ShownHints.run`).
-/

namespace ClusterTutor

/-! ### One moment -/

namespace Session

variable {s : Session} {step : LabStep} {clock : Magnitude}

/-- **How the hints of a step stand at a moment**, and what revealing one would do. -/
inductive HintMoment (s : Session) (step : LabStep) (clock : Magnitude) : Prop
  /-- A hint comes next. It is announced, and would be shown under the announced number. -/
  | next {h : Hint} : Hint.ComesNext step.hints (s.activity clock) h →
    s.hintLine clock =
      .ok (HintStatus.announcement (s.revealed.size + 1) step.hints.length) →
    s.revealHint clock = .ok ({ s with revealed := s.revealed.insert h.id },
      h.page (s.revealed.size + 1) step.hints.length) →
    HintMoment s step clock
  /-- No hint is open. Revealing one is answered by the status, and changes nothing. -/
  | waiting {text : String} : (∀ h ∈ step.hints, ¬h.IsOpen (s.activity clock)) →
    (∀ k, text ≠ HintStatus.announcement k step.hints.length) →
    s.hintLine clock = .ok text → s.revealHint clock = .ok (s, text) →
    HintMoment s step clock

/-- **At any moment a hint comes next, or none is open.** -/
theorem hintMoment (hstep : s.currentStep? = some step)
    (hnumeric : ∀ hint ∈ step.hints, hint.trigger.isNumeric = true)
    (hknown : ∀ id ∈ s.revealed, id ∈ step.hints.map Hint.id) (clock : Magnitude) :
    HintMoment s step clock := by
  obtain ⟨status, hof, hcount, htotal, -, hnext⟩ :=
    HintStatus.exists_of_eq fun h hmem => Hint.exists_isAvailable (hnumeric h hmem)
      (s.activity clock)
  have hline : s.hintLine clock = .ok status.line := by
    simp only [hintLine, hstep, hof, Except.map]
  cases hfound : status.next with
  | some h =>
    have hcomes := Hint.comesNext_of_find? (hnext.symm.trans hfound)
    have hunrevealed : h.id ∉ s.revealed := hcomes.isOpen.unrevealed
    have hsize : status.revealedCount = s.revealed.size :=
      hcount.trans (HintStatus.countOf_eq_size hknown)
    have hlt : status.revealedCount < status.totalCount := by
      rw [hcount, htotal]
      exact HintStatus.countOf_lt hcomes.mem hunrevealed
    refine .next hcomes ?_ ?_
    · rw [hline, HintStatus.line_of_next (by rw [hfound]; rfl) hlt, hsize, htotal]
    · have hrevealed : (s.activity clock).revealed = s.revealed := rfl
      simp only [revealHint, hstep, Hint.revealNext_of_next hof hfound, bind, Except.bind]
      rw [hrevealed, NameSet.size_insert hunrevealed]
      rfl
  | none =>
    refine .waiting (Hint.not_isOpen_of_find?_eq_none (hnext.symm.trans hfound)) ?_ hline ?_
    · exact fun k => HintStatus.line_ne_announcement hfound k _
    · simp only [revealHint, hstep, Hint.revealNext_of_none hof hfound, hline, bind, Except.bind]
      rfl

namespace HintMoment

/-- **A hint is announced under a number exactly if a reveal would show one under it.** -/
theorem announces_iff (h : HintMoment s step clock) (k : Nat) :
    s.hintLine clock = .ok (HintStatus.announcement k step.hints.length) ↔
      ∃ (hint : Hint) (s' : Session),
        s.revealHint clock = .ok (s', hint.page k step.hints.length) ∧
          s'.revealed ≠ s.revealed := by
  cases h with
  | @next hint hcomes hline hreveal =>
    rw [hline, hreveal]
    constructor
    · intro heq
      obtain rfl := HintStatus.index_eq_of_announcement_eq (Except.ok.inj heq)
      exact ⟨hint, _, rfl, NameSet.insert_ne hcomes.isOpen.unrevealed⟩
    · rintro ⟨g, s', heq, -⟩
      obtain ⟨-, hpage⟩ := Prod.ext_iff.1 (Except.ok.inj heq)
      rw [Hint.index_eq_of_page_eq hpage]
  | waiting _ hother hline hreveal =>
    rw [hline, hreveal]
    constructor
    · exact fun heq => absurd (Except.ok.inj heq) (hother k)
    · rintro ⟨g, s', heq, hgrows⟩
      obtain ⟨hsame, -⟩ := Prod.ext_iff.1 (Except.ok.inj heq)
      exact absurd (congrArg Session.revealed hsame.symm) hgrows

/-- **What is revealed is the next hint**, and its name is added. -/
theorem of_grows (h : HintMoment s step clock) {s' : Session} {text : String}
    (hreveal : s.revealHint clock = .ok (s', text)) (hgrows : s'.revealed ≠ s.revealed) :
    ∃ hint, Hint.ComesNext step.hints (s.activity clock) hint ∧ hint.id ∉ s.revealed ∧
      s' = { s with revealed := s.revealed.insert hint.id } ∧
      text = hint.page (s.revealed.size + 1) step.hints.length := by
  cases h with
  | @next hint hcomes _ hnext =>
    rw [hnext] at hreveal
    obtain ⟨hs', htext⟩ := Prod.ext_iff.1 (Except.ok.inj hreveal)
    exact ⟨hint, hcomes, hcomes.isOpen.unrevealed, hs'.symm, htext.symm⟩
  | waiting _ _ _ hnone =>
    rw [hnone] at hreveal
    obtain ⟨hs', -⟩ := Prod.ext_iff.1 (Except.ok.inj hreveal)
    exact absurd (congrArg Session.revealed hs'.symm) hgrows

/-- **Where nothing is announced, a reveal changes nothing** and is answered by the status. -/
theorem of_silent (h : HintMoment s step clock)
    (hsilent : ∀ k, s.hintLine clock ≠ .ok (HintStatus.announcement k step.hints.length)) :
    (∀ hint ∈ step.hints, ¬hint.IsOpen (s.activity clock)) ∧
      ∃ text, s.hintLine clock = .ok text ∧ s.revealHint clock = .ok (s, text) := by
  cases h with
  | next _ hline _ => exact absurd hline (hsilent _)
  | waiting hwaiting _ hline hreveal => exact ⟨hwaiting, _, hline, hreveal⟩

end HintMoment

/-! ### What does not touch the revealed hints -/

theorem CommandRun.revealed_eq {t : Tutor} {line : String} {acting : ExecutionContext}
    {tracked : String} {r : Run} (h : CommandRun t s line acting tracked r) :
    r.session.revealed = s.revealed := by
  cases h with
  | rejected _ => rfl
  | overlong _ => rfl
  | executed _ _ _ _ => rfl

theorem LineRun.revealed_eq {t : Tutor} {line : String} {r : Run} (h : LineRun t s line r) :
    r.session.revealed = s.revealed := by
  cases h with
  | blank _ => rfl
  | answered _ _ => rfl
  | refused _ => rfl
  | asActor _ _ hrun => exact hrun.revealed_eq
  | asRoot _ _ hrun => exact hrun.revealed_eq

theorem revealed_undo (s : Session) : s.undo.1.revealed = s.revealed := by
  unfold undo
  split
  · rfl
  · split
    · rfl
    · rfl

end Session

/-! ### Calls of a step -/

namespace LabRun

/-- **A learner comes to a step**: at the start of a lab, or by going on. -/
inductive BeginsStep : LabRun → Prop
  /-- A lab is started. -/
  | start (t : Tutor) (s : Session) (lab : Lab) (clock : Magnitude) :
    BeginsStep (.start t s lab clock)
  /-- The step before was passed. -/
  | goesOn {r : LabRun} {now : Instant} {clock : Magnitude} :
    (r.call (.advance now clock)).session.stepIndex ≠ r.session.stepIndex →
    BeginsStep (r.call (.advance now clock))

/-- The text that a call shows if it reveals a hint. -/
def shownBy? (r : LabRun) : LabCall → Option String
  | .revealHint clock =>
    match r.session.revealHint clock with
    | .ok (s, text) => if s.revealed = r.session.revealed then none else some text
    | .error _ => none
  | _ => none

/-- The texts of the hints that calls reveal, in the order of the calls. -/
def shown (r : LabRun) : List LabCall → List String
  | [] => []
  | c :: cs => (r.shownBy? c).toList ++ (r.call c).shown cs

variable {r : LabRun} {step : LabStep} {hs : List Hint}

/-- Going on stays, or leaves the step. -/
theorem session_advance (r : LabRun) (now : Instant) (clock : Magnitude) :
    (r.call (.advance now clock)).session = r.session ∨
      (r.call (.advance now clock)).session = r.session.atNextStep clock := by
  have hexits := Session.advanceRun_advance r.session r.tutor now clock
  simp only [call]
  generalize r.session.advance r.tutor now clock = a at hexits
  cases hexits with
  | stays _ => exact .inl rfl
  | goesOn _ _ _ _ => exact .inr rfl
  | completes _ _ _ _ => exact .inr rfl

/-- No call goes back. -/
theorem index_le_call (r : LabRun) (c : LabCall) :
    r.session.stepIndex ≤ (r.call c).session.stepIndex := by
  cases c with
  | line text => exact (r.stays_line text).index_eq.ge
  | undo => exact r.stays_undo.index_eq.ge
  | revealHint clock => exact (r.stays_revealHint clock).index_eq.ge
  | hintStatus clock => exact le_rfl
  | advance now clock =>
    rcases r.session_advance now clock with hsame | hnext
    · rw [hsame]
    · rw [hnext]
      exact Nat.le_succ _

theorem index_le_run (r : LabRun) (cs : List LabCall) :
    r.session.stepIndex ≤ (r.run cs).session.stepIndex := by
  induction cs generalizing r with
  | nil => exact le_rfl
  | cons c cs ih => exact (r.index_le_call c).trans (ih (r.call c))

/-- No hint of a step was revealed before it. -/
theorem BeginsStep.revealed_eq (h : r.BeginsStep) : r.session.revealed = .empty := by
  cases h with
  | start t s lab clock => rfl
  | @goesOn r now clock hindex =>
    rcases r.session_advance now clock with hsame | hnext
    · exact absurd (congrArg Session.stepIndex hsame) hindex
    · rw [hnext]
      rfl

/-- **The hints that were shown in a step**, in the order in which they were revealed. -/
structure ShownHints (step : LabStep) (hs : List Hint) (r : LabRun) : Prop where
  /-- The learner is at the step. -/
  step_eq : r.session.currentStep? = some step
  /-- What was revealed is what was shown. -/
  revealed_eq : r.session.revealed = .ofList (hs.map Hint.id)
  /-- No name was shown twice. -/
  nodup : (hs.map Hint.id).Nodup
  /-- Only hints of the step were shown. -/
  mem : ∀ h ∈ hs, h ∈ step.hints

namespace ShownHints

theorem size_eq (h : ShownHints step hs r) : r.session.revealed.size = hs.length := by
  rw [h.revealed_eq, NameSet.size_ofList h.nodup, List.length_map]

/-- No more hints are shown than there are. -/
theorem length_le (h : ShownHints step hs r) : hs.length ≤ step.hints.length :=
  (List.subperm_of_subset h.nodup.of_map h.mem).length_le

theorem known (h : ShownHints step hs r) :
    ∀ id ∈ r.session.revealed, id ∈ step.hints.map Hint.id := by
  intro id hid
  rw [h.revealed_eq, NameSet.mem_ofList] at hid
  obtain ⟨hint, hmem, rfl⟩ := List.mem_map.1 hid
  exact List.mem_map_of_mem (h.mem hint hmem)

/-- What leaves the learner where they are, and reveals nothing, leaves the hints as they are. -/
theorem congr (h : ShownHints step hs r) {r' : LabRun}
    (hplace : r'.session.place = r.session.place)
    (hrevealed : r'.session.revealed = r.session.revealed) : ShownHints step hs r' where
  step_eq := (Session.currentStep?_of_place_eq hplace).trans h.step_eq
  revealed_eq := hrevealed.trans h.revealed_eq
  nodup := h.nodup
  mem := h.mem

/-- **One call in a step**: either it shows no hint, or it shows one more, under the next
number. -/
theorem call (h : ShownHints step hs r)
    (hnumeric : ∀ hint ∈ step.hints, hint.trigger.isNumeric = true) (c : LabCall)
    (hstays : (r.call c).session.stepIndex = r.session.stepIndex) :
    ∃ new : Option Hint, ShownHints step (hs ++ new.toList) (r.call c) ∧
      r.shownBy? c = new.map fun hint => hint.page (hs.length + 1) step.hints.length := by
  have hquiet : (r.call c).session.place = r.session.place →
      (r.call c).session.revealed = r.session.revealed →
        ShownHints step (hs ++ (none : Option Hint).toList) (r.call c) := by
    intro hplace hrevealed
    rw [Option.toList_none, List.append_nil]
    exact h.congr hplace hrevealed
  cases c with
  | line text =>
    refine ⟨none, hquiet ?_ ?_, rfl⟩
    · exact (Session.effects_runLine r.tutor r.session text).1
    · exact (Session.lineRun_runLine r.tutor r.session text).revealed_eq
  | undo =>
    exact ⟨none, hquiet (Session.place_undo r.session).1 (Session.revealed_undo r.session), rfl⟩
  | hintStatus clock => exact ⟨none, hquiet rfl rfl, rfl⟩
  | advance now clock =>
    rcases r.session_advance now clock with hsame | hnext
    · exact ⟨none, hquiet (congrArg Session.place hsame) (congrArg Session.revealed hsame), rfl⟩
    · have hindex := congrArg Session.stepIndex hnext
      rw [hstays] at hindex
      exact absurd hindex (Nat.ne_of_lt (Nat.lt_succ_self _))
  | revealHint clock =>
    cases Session.hintMoment h.step_eq hnumeric h.known clock with
    | waiting _ _ _ hreveal =>
      have hcall : r.call (.revealHint clock) = r := by simp only [LabRun.call, hreveal]
      refine ⟨none, hquiet ?_ ?_, ?_⟩
      · rw [hcall]
      · rw [hcall]
      · simp [shownBy?, hreveal]
    | @next hint hcomes _ hreveal =>
      have hunrevealed : hint.id ∉ r.session.revealed := hcomes.isOpen.unrevealed
      have hcall : (r.call (.revealHint clock)).session =
          { r.session with revealed := r.session.revealed.insert hint.id } := by
        simp only [LabRun.call, hreveal]
      refine ⟨some hint, ⟨?_, ?_, ?_, ?_⟩, ?_⟩
      · rw [hcall]
        exact h.step_eq
      · rw [hcall, Option.toList_some, List.map_append, List.map_singleton,
          NameSet.ofList_concat, h.revealed_eq]
      · rw [h.revealed_eq, NameSet.mem_ofList] at hunrevealed
        rw [Option.toList_some, List.map_append, List.map_singleton]
        exact List.nodup_append_comm.1 (List.nodup_cons.2 ⟨hunrevealed, h.nodup⟩)
      · intro g hg
        rcases List.mem_append.1 hg with hg | hg
        · exact h.mem g hg
        · obtain rfl := List.mem_singleton.1 hg
          exact hcomes.mem
      · have hgrows : r.session.revealed.insert hint.id ≠ r.session.revealed :=
          NameSet.insert_ne hcomes.isOpen.unrevealed
        simp only [shownBy?, hreveal, if_neg hgrows, h.size_eq, Option.map_some]

/-- **Any calls in a step**: the hints that they show are numbered one after another. -/
theorem run (h : ShownHints step hs r)
    (hnumeric : ∀ hint ∈ step.hints, hint.trigger.isNumeric = true) (cs : List LabCall)
    (hstays : (r.run cs).session.stepIndex = r.session.stepIndex) :
    ∃ more : List Hint, ShownHints step (hs ++ more) (r.run cs) ∧
      r.shown cs = more.mapIdx fun i hint => hint.page (hs.length + i + 1) step.hints.length := by
  induction cs generalizing hs r with
  | nil => exact ⟨[], by rwa [List.append_nil], rfl⟩
  | cons c cs ih =>
    -- The step is left by no call, since none goes back to it.
    have hle := r.index_le_call c
    have hle' := (r.call c).index_le_run cs
    have hrun : (r.run (c :: cs)) = (r.call c).run cs := rfl
    rw [hrun] at hstays ⊢
    obtain ⟨new, hcall, hshown⟩ := h.call hnumeric c (by omega)
    obtain ⟨more, hmore, htexts⟩ := ih hcall (by omega)
    refine ⟨new.toList ++ more, by rwa [← List.append_assoc], ?_⟩
    rw [shown, hshown, htexts]
    cases new with
    | none => simp
    | some hint =>
      simp [List.mapIdx_cons, Nat.add_assoc, Nat.add_comm 1]

/-- **What was revealed stays revealed, and available**, when more hints are shown. -/
theorem stays_available (h : ShownHints step hs r) {r' : LabRun} {more : List Hint}
    (h' : ShownHints step (hs ++ more) r')
    (hnumeric : ∀ hint ∈ step.hints, hint.trigger.isNumeric = true) :
    (∀ id ∈ r.session.revealed, id ∈ r'.session.revealed) ∧
      ∀ clock, ∃ status, HintStatus.of step.hints (r'.session.activity clock) = .ok status ∧
        ∀ hint ∈ step.hints, hint.id ∈ r.session.revealed → hint ∈ status.available := by
  have hkept : ∀ id ∈ r.session.revealed, id ∈ r'.session.revealed := by
    intro id hid
    rw [h.revealed_eq, NameSet.mem_ofList] at hid
    rw [h'.revealed_eq, NameSet.mem_ofList, List.map_append, List.mem_append]
    exact .inl hid
  refine ⟨hkept, fun clock => ?_⟩
  obtain ⟨status, hof, -, -, havailable, -⟩ :=
    HintStatus.exists_of_eq fun h hmem => Hint.exists_isAvailable (hnumeric h hmem)
      (r'.session.activity clock)
  refine ⟨status, hof, fun hint hmem hid => ?_⟩
  rw [havailable]
  refine List.mem_filter.2 ⟨List.mem_mergeSort.2 hmem, ?_⟩
  exact Hint.availableNow_iff.2 (Hint.isAvailable_of_revealed (hkept hint.id hid))

end ShownHints

theorem BeginsStep.shownHints (h : r.BeginsStep) (hstep : r.session.currentStep? = some step) :
    ShownHints step [] r :=
  ⟨hstep, h.revealed_eq, List.nodup_nil, fun _ hmem => (List.not_mem_nil hmem).elim⟩

/-- **Hint status and hint reveal tell the same story.** A learner comes to a step whose `n` hints
compare their triggers with numbers, if with anything, and makes any calls `cs` without leaving
the step. So far some hints `hs` were revealed:

* they were shown under the numbers 1, 2, 3 and so on, up to `n` at most;
* they are hints of the step, no two of one name, and the names that were revealed are theirs;
* the status announces the `k`-th hint exactly if a reveal at that moment would reveal a hint and
  show it as the `k`-th;
* a hint that would be revealed is the first by level and position of the open ones, and one new
  name is added;
* where the status announces nothing, no hint is open, and a reveal changes nothing and is
  answered by the status;
* after any more calls in the step, what was revealed is revealed, and is available. -/
theorem status_and_reveal_agree (hbegins : r.BeginsStep)
    (hstep : r.session.currentStep? = some step)
    (hnumeric : ∀ hint ∈ step.hints, hint.trigger.isNumeric = true) (cs : List LabCall)
    (hstays : (r.run cs).session.stepIndex = r.session.stepIndex) :
    let n := step.hints.length
    let s := (r.run cs).session
    ∃ hs : List Hint,
      r.shown cs = hs.mapIdx (fun i h => h.page (i + 1) n) ∧ hs.length ≤ n ∧
      (∀ h ∈ hs, h ∈ step.hints) ∧ (hs.map Hint.id).Nodup ∧
      s.revealed = .ofList (hs.map Hint.id) ∧
      (∀ clock k, s.hintLine clock = .ok (HintStatus.announcement k n) ↔
        ∃ (h : Hint) (s' : Session), s.revealHint clock = .ok (s', h.page k n) ∧
          s'.revealed ≠ s.revealed) ∧
      (∀ clock s' text, s.revealHint clock = .ok (s', text) → s'.revealed ≠ s.revealed →
        ∃ h, Hint.ComesNext step.hints (s.activity clock) h ∧ h.id ∉ s.revealed ∧
          s' = { s with revealed := s.revealed.insert h.id } ∧
          text = h.page (hs.length + 1) n) ∧
      (∀ clock, (∀ k, s.hintLine clock ≠ .ok (HintStatus.announcement k n)) →
        (∀ h ∈ step.hints, ¬h.IsOpen (s.activity clock)) ∧
          ∃ text, s.hintLine clock = .ok text ∧ s.revealHint clock = .ok (s, text)) ∧
      ∀ cs', (r.run (cs ++ cs')).session.stepIndex = r.session.stepIndex →
        let later := (r.run (cs ++ cs')).session
        (∀ id ∈ s.revealed, id ∈ later.revealed) ∧
        ∀ clock, ∃ status, HintStatus.of step.hints (later.activity clock) = .ok status ∧
          ∀ h ∈ step.hints, h.id ∈ s.revealed → h ∈ status.available := by
  intro n s
  obtain ⟨hs, hshown, htexts⟩ := (hbegins.shownHints hstep).run hnumeric cs hstays
  rw [List.nil_append] at hshown
  have hmoment := Session.hintMoment hshown.step_eq hnumeric hshown.known
  refine ⟨hs, ?_, hshown.length_le, hshown.mem, hshown.nodup, hshown.revealed_eq,
    fun clock => (hmoment clock).announces_iff, fun clock s' text hreveal hgrows => ?_,
    fun clock hsilent => (hmoment clock).of_silent hsilent, fun cs' hstays' => ?_⟩
  · simpa using htexts
  · rw [← hshown.size_eq]
    exact (hmoment clock).of_grows hreveal hgrows
  · have hrun : r.run (cs ++ cs') = (r.run cs).run cs' := List.foldl_append
    rw [hrun] at hstays' ⊢
    obtain ⟨more, hlater, -⟩ := hshown.run hnumeric cs' (hstays'.trans hstays.symm)
    exact hshown.stays_available hlater hnumeric

/-- A hint that is available at once. -/
def toolHint : Hint := { id := "tool", level := 2, message := "Try a viewer." }

/-- A step with a gentler hint that is available after a minute, and with two hints of one
name. -/
def hintedStep : LabStep :=
  { tourStep with hints := [
    { id := "clue", level := 1, message := "Look around.",
      trigger := { kind := .string "time", seconds := .int 60 } },
    toolHint,
    { id := "tool", level := 3, message := "Run nvtop." }] }

/-- The start of a lab of that step. -/
def hintedStart : LabRun :=
  start guide (.start guide 1 (.whole 0)) { tour 2 with steps := [hintedStep] } (.whole 0)

theorem ordered_hintedStep : Hint.ordered hintedStep.hints = hintedStep.hints :=
  List.mergeSort_of_pairwise (by decide)

/-- A learner who asked at once was shown a hint of the second level. After a minute the gentler
one is announced as the second, and a reveal shows it so. -/
theorem gentlerHint_comes_second :
    let s := (hintedStart.run [.revealHint (.whole 0)]).session
    s.hintLine (.whole 60) = .ok (HintStatus.announcement 2 3) ∧
      ∃ (h : Hint) (s' : Session), s.revealHint (.whole 60) = .ok (s', h.page 2 3) ∧
        s'.revealed ≠ s.revealed := by
  intro s
  have hstep : hintedStart.session.currentStep? = some hintedStep := rfl
  have hnumeric : ∀ hint ∈ hintedStep.hints, hint.trigger.isNumeric = true := by decide +kernel
  have hstays : s.stepIndex = hintedStart.session.stepIndex :=
    (hintedStart.stays_revealHint (.whole 0)).index_eq
  have hs : s = { hintedStart.session with revealed := .ofList ["tool"] } := by
    have hreveal : hintedStart.session.revealHint (.whole 0) =
        .ok ({ hintedStart.session with revealed := .ofList ["tool"] }, toolHint.page 1 3) := by
      simp only [Session.revealHint, hstep, Hint.revealNext, HintStatus.of, ordered_hintedStep]
      rfl
    have hcall : s = (hintedStart.call (.revealHint (.whole 0))).session := rfl
    rw [hcall]
    simp only [call, hreveal]
  have hline : s.hintLine (.whole 60) = .ok (HintStatus.announcement 2 3) := by
    have hstep' : s.currentStep? = some hintedStep := by
      rw [hs]
      rfl
    rw [Session.hintLine, hstep']
    simp only [HintStatus.of, ordered_hintedStep, hs]
    rfl
  obtain ⟨hs, -, -, -, -, -, hagree, -⟩ := status_and_reveal_agree (.start _ _ _ _) hstep hnumeric
    [.revealHint (.whole 0)] hstays
  exact ⟨hline, (hagree (.whole 60) 2).1 hline⟩

end LabRun

end ClusterTutor
