import ClusterTutor.Proofs.Text.NameSet
import ClusterTutor.Proofs.Text.Spacing
import ClusterTutor.Tracker
import Mathlib.Logic.Relation

/-!
# Scores

A tracker is asked which of some expected lines were executed, and a step is scored by how many
of them were. This module says what the score is, in terms of the lines that were recorded since
the tracker was last cleared (`ClusterTutor.TrackerCall.recorded`).

* A tracker holds these lines, squeezed, without the blank ones, and the set of lines that it has
  seen agrees with them (`ClusterTutor.Tracker.holds_ofCalls`). So an expected line is matched if
  it was recorded in whatever spacing (`ClusterTutor.IsRecorded`).
* The percentage is rounded down, which makes no difference to whether it reaches a whole number
  (`ClusterTutor.StepScore.passed_of_iff`).
* The score depends on which words were recorded, and not on how often, in which order, or in
  which spacing (`ClusterTutor.StepScore.of_congr`); and it grows with what was recorded
  (`ClusterTutor.StepScore.percentage_mono`).
-/

namespace ClusterTutor

/-! ### Calls of a tracker -/

/-- A call of a tracker. -/
inductive TrackerCall where
  /-- Record an executed line. -/
  | record (line : String)
  /-- Forget all lines. -/
  | clear

namespace TrackerCall

/-- The lines that calls record, behind some recorded before; those before a clearing are
forgotten. -/
def recordedAfter (lines : List String) : List TrackerCall → List String
  | [] => lines
  | .record line :: cs => recordedAfter (lines ++ [line]) cs
  | .clear :: cs => recordedAfter [] cs

/-- The lines that calls record, since the last one that clears. -/
def recorded (cs : List TrackerCall) : List String := recordedAfter [] cs

theorem recordedAfter_append_record (lines : List String) (cs : List TrackerCall)
    (more : List String) :
    recordedAfter lines (cs ++ more.map .record) = recordedAfter lines cs ++ more := by
  induction cs generalizing lines with
  | nil =>
    induction more generalizing lines with
    | nil => simp [recordedAfter]
    | cons line more ih =>
      have hmore := ih (lines ++ [line])
      simp only [List.nil_append, recordedAfter] at hmore
      simp [recordedAfter, hmore]
  | cons c cs ih =>
    cases c with
    | record line => exact ih (lines ++ [line])
    | clear => exact ih []

/-- What is recorded next stands behind what was recorded. -/
theorem recorded_append_record (cs : List TrackerCall) (more : List String) :
    recorded (cs ++ more.map .record) = recorded cs ++ more :=
  recordedAfter_append_record [] cs more

end TrackerCall

/-- **A line was recorded** in some spacing, and it was not blank. -/
def IsRecorded (lines : List String) (line : String) : Prop :=
  ∃ l ∈ lines, Text.isBlankText l = false ∧ Text.squeeze l = Text.squeeze line

instance (lines : List String) (line : String) : Decidable (IsRecorded lines line) :=
  inferInstanceAs (Decidable (∃ l ∈ lines, _))

theorem IsRecorded.mono {lines more : List String} {line : String} (h : IsRecorded lines line)
    (hsub : lines ⊆ more) : IsRecorded more line := by
  obtain ⟨l, hl, hspelled⟩ := h
  exact ⟨l, hsub hl, hspelled⟩

namespace Tracker

/-- A tracker after a call. -/
def call (t : Tracker) : TrackerCall → Tracker
  | .record line => t.record line
  | .clear => {}

/-- A new tracker after some calls. -/
def ofCalls (cs : List TrackerCall) : Tracker := cs.foldl call {}

/-- Lines as a tracker keeps them. -/
def kept (lines : List String) : List String :=
  (lines.filter fun l => !Text.isBlankText l).map Text.squeeze

variable {t : Tracker} {lines : List String}

/-- **The set of lines that were seen agrees with the history.** -/
def Agrees (t : Tracker) : Prop := t.seen = .ofList t.lines

theorem agrees_new : Agrees {} := rfl

/-- A line that is recorded is put into both. -/
theorem Agrees.record (h : t.Agrees) (line : String) : (t.record line).Agrees := by
  unfold Tracker.record
  by_cases hempty : (Text.squeeze line).isEmpty = true
  · simpa [hempty] using h
  · simp only [hempty, Bool.false_eq_true, if_false, Agrees, NameSet.ofList_concat]
    rw [h]

theorem Agrees.hasSeen_iff (h : t.Agrees) (line : String) :
    t.hasSeen line = true ↔ Text.squeeze line ∈ t.lines := by
  rw [hasSeen, NameSet.contains_iff, h, NameSet.mem_ofList]

/-- **A tracker holds lines** when these are its history, as lines are kept, and what it has seen
agrees with it. -/
structure Holds (t : Tracker) (lines : List String) : Prop where
  /-- The history. -/
  history : t.lines = kept lines
  /-- What was seen. -/
  agrees : t.Agrees

/-- **Recording a line keeps it**, unless it is blank. -/
theorem Holds.record (h : t.Holds lines) (line : String) :
    (t.record line).Holds (lines ++ [line]) := by
  refine ⟨?_, h.agrees.record line⟩
  have hhistory := h.history
  unfold Tracker.record
  by_cases hblank : Text.isBlankText line = true
  · have hempty := (Text.squeeze_eq_empty_iff line).2 hblank
    simp [hempty, hhistory, kept, hblank]
  · have hsome : Text.squeeze line ≠ "" := fun hempty =>
      hblank ((Text.squeeze_eq_empty_iff line).1 hempty)
    simp [hsome, hhistory, kept, hblank]

theorem Holds.foldl_call (h : t.Holds lines) (cs : List TrackerCall) :
    (cs.foldl call t).Holds (TrackerCall.recordedAfter lines cs) := by
  induction cs generalizing t lines with
  | nil => exact h
  | cons c cs ih =>
    cases c with
    | record line => exact ih (h.record line)
    | clear => exact ih ⟨rfl, agrees_new⟩

/-- **A tracker holds what was recorded since it was last cleared.** -/
theorem holds_ofCalls (cs : List TrackerCall) : (ofCalls cs).Holds (TrackerCall.recorded cs) :=
  Holds.foldl_call ⟨rfl, agrees_new⟩ cs

theorem Holds.hasSeen_iff (h : t.Holds lines) (line : String) :
    t.hasSeen line = true ↔ IsRecorded lines line := by
  rw [h.agrees.hasSeen_iff, h.history]
  simp [kept, IsRecorded, and_assoc]

/-- **An expected line is matched if it was recorded.** -/
theorem Holds.matched_eq (h : t.Holds lines) (expected : List String) :
    t.matched expected = expected.filter fun e => decide (IsRecorded lines e) := by
  refine List.filter_congr fun e _ => ?_
  rw [Bool.eq_iff_iff, h.hasSeen_iff, decide_eq_true_iff]

end Tracker

/-! ### Percentages -/

namespace StepScore

variable {expected : List String} {t t' : Tracker} {passingScore : Int}

theorem passed_iff (s : StepScore) :
    s.passed = true ↔ 0 < s.total ∧ s.passingScore ≤ s.percentage := by
  simp [passed]

theorem length_matched_le (expected : List String) (t : Tracker) :
    (t.matched expected).length ≤ expected.length :=
  List.length_filter_le _ _

theorem percentage_le (expected : List String) (t : Tracker) (passingScore : Int) :
    (of expected t passingScore).percentage ≤ 100 := by
  have hle := length_matched_le expected t
  exact Nat.div_le_of_le_mul (by omega)

/-- **A score is full exactly if something is expected, and all of it is matched.** -/
theorem percentage_eq_hundred_iff :
    (of expected t passingScore).percentage = 100 ↔
      expected ≠ [] ∧ (t.matched expected).length = expected.length := by
  have hle := length_matched_le expected t
  have hpercentage : (of expected t passingScore).percentage =
      (t.matched expected).length * 100 / expected.length := rfl
  rw [hpercentage]
  constructor
  · intro hfull
    have hpos : 0 < expected.length := by
      by_contra hnone
      rw [Nat.eq_zero_of_not_pos hnone, Nat.div_zero] at hfull
      omega
    have hreached := (Nat.le_div_iff_mul_le hpos).1 (Nat.le_of_eq hfull.symm)
    exact ⟨List.length_pos_iff.1 hpos, by omega⟩
  · rintro ⟨hsome, hall⟩
    rw [hall, Nat.mul_div_cancel_left 100 (List.length_pos_iff.2 hsome)]

/-- **Rounding down never changes the verdict**: the percentage reaches the passing score exactly
if the share of matched lines does. -/
theorem passed_of_iff :
    (of expected t passingScore).passed = true ↔
      expected ≠ [] ∧ passingScore * expected.length ≤ 100 * (t.matched expected).length := by
  have htotal : (of expected t passingScore).total = expected.length := rfl
  rw [passed_iff, htotal, List.length_pos_iff]
  refine and_congr_right fun hsome => ?_
  have hpos : (0 : Int) < expected.length := Int.natCast_pos.2 (List.length_pos_iff.2 hsome)
  have hpercentage : (of expected t passingScore).percentage =
      (t.matched expected).length * 100 / expected.length := rfl
  rw [hpercentage, Int.natCast_ediv, Int.le_ediv_iff_mul_le hpos, Int.natCast_mul,
    Int.mul_comm ((t.matched expected).length : Int)]
  rfl

/-- **A score grows with what is matched.** -/
theorem percentage_mono (h : (t.matched expected).length ≤ (t'.matched expected).length) :
    (of expected t passingScore).percentage ≤ (of expected t' passingScore).percentage :=
  Nat.div_le_div_right (Nat.mul_le_mul_right 100 h)

theorem passed_mono (h : (of expected t passingScore).percentage ≤
      (of expected t' passingScore).percentage)
    (hpassed : (of expected t passingScore).passed = true) :
    (of expected t' passingScore).passed = true := by
  obtain ⟨hsome, hreached⟩ := (passed_iff _).1 hpassed
  exact (passed_iff _).2 ⟨hsome, Int.le_trans hreached (Int.ofNat_le.2 h)⟩

/-- **Trackers that match the same lines give the same score.** -/
theorem of_congr (h : t'.matched expected = t.matched expected) :
    of expected t' passingScore = of expected t passingScore := by
  simp only [of, h]

end StepScore

/-! ### Recording the same otherwise -/

/-- **The same lines are recorded otherwise**: in another order, once more, or in another
spacing. -/
inductive Rerecorded : List String → List String → Prop
  /-- The order is another one. -/
  | reordered {lines lines' : List String} : lines.Perm lines' → Rerecorded lines lines'
  /-- A line is recorded once more. -/
  | again {lines : List String} {line : String} : line ∈ lines → Rerecorded lines (lines ++ [line])
  /-- A line has another spacing. -/
  | respaced (before after : List String) {line line' : String} : Text.Respaced line line' →
    Rerecorded (before ++ line :: after) (before ++ line' :: after)

/-- Lines of the same words are the same, squeezed or blank. -/
theorem isRecorded_singleton_congr {line line' : String} (h : Text.words line = Text.words line')
    (e : String) : IsRecorded [line] e ↔ IsRecorded [line'] e := by
  have hsqueeze : Text.squeeze line = Text.squeeze line' := by rw [Text.squeeze, h, Text.squeeze]
  have hblank : Text.isBlankText line = Text.isBlankText line' := by
    rw [Bool.eq_iff_iff, ← Text.squeeze_eq_empty_iff, hsqueeze, Text.squeeze_eq_empty_iff]
  simp [IsRecorded, hsqueeze, hblank]

theorem isRecorded_append {lines lines' : List String} {e : String} :
    IsRecorded (lines ++ lines') e ↔ IsRecorded lines e ∨ IsRecorded lines' e := by
  simp only [IsRecorded, List.mem_append, or_and_right, exists_or]

/-- **What was recorded does not depend on order, number and spacing.** -/
theorem Rerecorded.isRecorded_iff {lines lines' : List String} (h : Rerecorded lines lines')
    (e : String) : IsRecorded lines e ↔ IsRecorded lines' e := by
  cases h with
  | reordered hperm => exact ⟨fun hl => hl.mono hperm.subset, fun hl => hl.mono hperm.symm.subset⟩
  | again hmem =>
    refine ⟨fun hl => hl.mono (List.subset_append_left _ _), fun hl => hl.mono ?_⟩
    exact List.append_subset.2 ⟨List.Subset.refl _, by simpa using hmem⟩
  | @respaced before after line line' hspacing =>
    have hline := isRecorded_singleton_congr (Text.words_eq_of_respaced hspacing) e
    rw [← List.singleton_append, ← List.singleton_append (x := line'), isRecorded_append,
      isRecorded_append, isRecorded_append, isRecorded_append, hline]

theorem isRecorded_iff_of_eqvGen {lines lines' : List String}
    (h : Relation.EqvGen Rerecorded lines lines') (e : String) :
    IsRecorded lines e ↔ IsRecorded lines' e := by
  induction h with
  | rel lines lines' h => exact h.isRecorded_iff e
  | refl lines => exact Iff.rfl
  | symm lines lines' _ ih => exact ih.symm
  | trans lines lines' lines'' _ _ ih ih' => exact ih.trans ih'

namespace StepScore

open TrackerCall

/-- **Scores are exact and grow.** Let a tracker be called in any way, and let some lines be
expected. Then

* the matched lines are those of the expected ones that were recorded since the tracker was
  cleared, in some spacing, in the order in which they are expected, and as often;
* the percentage is at most one hundred, which it is exactly if something is expected and all of
  it was recorded;
* the step is passed exactly if something is expected, and the share of matched lines reaches the
  passing score, without any rounding;
* recording more lines never lowers the percentage, and leaves a passed step passed;
* the score is the same if the lines are recorded in another order, more often, or in another
  spacing. -/
theorem scores_exact_and_monotone (expected : List String) (passingScore : Int)
    (cs : List TrackerCall) :
    let score := of expected (.ofCalls cs) passingScore
    score.matched = expected.filter (fun e => decide (IsRecorded (recorded cs) e)) ∧
    score.percentage ≤ 100 ∧
    (score.percentage = 100 ↔
      expected ≠ [] ∧ ∀ e ∈ expected, IsRecorded (recorded cs) e) ∧
    (score.passed = true ↔
      expected ≠ [] ∧ passingScore * expected.length ≤ 100 * score.matched.length) ∧
    (∀ more : List String,
      let later := of expected (.ofCalls (cs ++ more.map .record)) passingScore
      score.percentage ≤ later.percentage ∧ (score.passed = true → later.passed = true)) ∧
    ∀ cs', Relation.EqvGen Rerecorded (recorded cs) (recorded cs') →
      of expected (.ofCalls cs') passingScore = score := by
  intro score
  have hmatched := (Tracker.holds_ofCalls cs).matched_eq expected
  refine ⟨hmatched, percentage_le _ _ _, ?_, passed_of_iff, fun more => ?_, fun cs' hsame => ?_⟩
  · refine percentage_eq_hundred_iff.trans (and_congr_right fun _ => ?_)
    rw [hmatched, List.length_filter_eq_length_iff]
    simp
  · have hlater := (Tracker.holds_ofCalls (cs ++ more.map .record)).matched_eq expected
    have hle : ((Tracker.ofCalls cs).matched expected).length ≤
        ((Tracker.ofCalls (cs ++ more.map .record)).matched expected).length := by
      rw [hmatched, hlater, recorded_append_record]
      refine (List.monotone_filter_right expected fun e he => ?_).length_le
      have hrecorded : IsRecorded (recorded cs) e := of_decide_eq_true he
      exact decide_eq_true (hrecorded.mono (List.subset_append_left _ _))
    exact ⟨percentage_mono hle, passed_mono (percentage_mono hle)⟩
  · refine of_congr ?_
    rw [hmatched, (Tracker.holds_ofCalls cs').matched_eq expected]
    refine List.filter_congr fun e _ => ?_
    rw [decide_eq_decide]
    exact (isRecorded_iff_of_eqvGen hsame e).symm

/-- Lines that are expected, one of them in two spellings. -/
def listing : List String := ["nvidia-smi -L", "sinfo", "nvidia-smi  -L"]

/-- A line that is recorded after a clearing matches two of three expected ones, which is enough
for two thirds rounded down. In a wider gap it would have done the same. -/
theorem listing_scored_alike :
    let cs : List TrackerCall := [.record "sinfo", .clear, .record "nvidia-smi\t-L"]
    let cs' : List TrackerCall := [.record "nvidia-smi\u3000 -L"]
    let score := of listing (.ofCalls cs) 66
    score.matched = ["nvidia-smi -L", "nvidia-smi  -L"] ∧ score.passed = true ∧
      of listing (.ofCalls cs') 66 = score := by
  intro cs cs' score
  obtain ⟨-, -, -, hpassed, -, halike⟩ := scores_exact_and_monotone listing 66 cs
  have hmatched : score.matched = ["nvidia-smi -L", "nvidia-smi  -L"] := by decide +kernel
  refine ⟨hmatched, hpassed.2 ⟨by decide, by rw [hmatched]; decide⟩, halike cs' (.rel _ _ ?_)⟩
  have hgap : Text.Respaced ("nvidia-smi" ++ "\t" ++ "-L") ("nvidia-smi" ++ "\u3000 " ++ "-L") :=
    .gap _ _ ⟨by decide, by decide⟩ ⟨by decide, by decide⟩
  exact Rerecorded.respaced [] [] hgap

end StepScore

end ClusterTutor
