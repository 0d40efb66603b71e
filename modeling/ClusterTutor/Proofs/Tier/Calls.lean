import ClusterTutor.Proofs.Tier.Rules
import ClusterTutor.Tutor
import Mathlib

/-!
# What a learner's calls do to the facts

Five calls of the tutor note facts of one learner: a tool was used, a quiz was taken, a gate
was tried, a lab was completed, a family was reviewed. Each notes its fact in one table, and
then raises the recorded tiers of the families it takes to be touched, from what the tables
say by then. What one call can do is said once, in `ClusterTutor.FactStep`:

| call | noted in | tiers raised |
|---|---|---|
| a tool | the tools of its families | those of its families |
| a quiz that counts | the quizzes | that of its family |
| a gate, or a lab | the gates | that of its family |
| anything else | nowhere, but for the reviews | none |

Raising is a fold over families that compares with the tiers from before it; it comes to
taking the higher tier for each family in the list
(`ClusterTutor.Tutor.recordedTier_refreshTiers`).
-/

namespace ClusterTutor

variable {t : Tutor} {profile : ProfileNumber}

/-! ### Names of gates -/

namespace Tutor

theorem toList_gateName (family : String) (tier : Int) :
    (gateName family tier).toList = family.toList ++ ":tier".toList ++ tier.repr.toList := by
  simp [gateName, toString]

/-- The spelling of a whole number has no letters. -/
theorem r_notMem_repr (n : Int) : 'r' ∉ n.repr.toList := by
  have hdigits : ∀ m : Nat, 'r' ∉ m.repr.toList := by
    intro m hmem
    rw [Nat.repr_eq_ofList_toDigits, String.toList_ofList] at hmem
    exact absurd (Nat.isDigit_of_mem_toDigits (by decide) (by decide) hmem) (by decide)
  rw [Int.repr_eq_if]
  split
  · exact hdigits _
  · rw [String.toList_append, List.mem_append]
    exact fun h => h.elim (by decide) (hdigits _)

/-- What stands after the last letter of the name of a gate. -/
theorem takeWhile_gateName (family : String) (tier : Int) :
    (gateName family tier).toList.reverse.takeWhile (· != 'r') = tier.repr.toList.reverse := by
  have hdigits : ∀ c ∈ tier.repr.toList.reverse, (c != 'r') = true := by
    intro c hc
    have hne : c ≠ 'r' := fun h => r_notMem_repr tier (h ▸ List.mem_reverse.1 hc)
    simpa using hne
  rw [toList_gateName, List.reverse_append, List.takeWhile_append_of_pos hdigits]
  simp

/-- **The name of a gate says which family and which tier it is for**, whatever letters the
name of the family has. -/
theorem gateName_inj {family family' : String} {tier tier' : Int} :
    gateName family tier = gateName family' tier' ↔ family = family' ∧ tier = tier' := by
  constructor
  · intro h
    have htier : tier.repr.toList.reverse = tier'.repr.toList.reverse := by
      rw [← takeWhile_gateName family, h, takeWhile_gateName]
    obtain rfl := Int.repr_inj.1 (String.toList_inj.1 (List.reverse_injective htier))
    have hfamily := congrArg String.toList h
    rw [toList_gateName, toList_gateName] at hfamily
    exact ⟨String.toList_inj.1 (by simpa using hfamily), rfl⟩
  · rintro ⟨rfl, rfl⟩
    rfl

end Tutor

/-! ### Raising recorded tiers -/

namespace Store

/-- Raises the recorded tier of a family to `highest family`, if that is more than was
recorded in `facts`. -/
def raiseFrom (profile : ProfileNumber) (facts : TierFacts) (highest : String → Int) (s : Store)
    (family : String) : Store :=
  if facts.recordedTier family < highest family then
    s.raiseTier profile family (highest family)
  else s

theorem recordedTier_raiseTier (s : Store) (profile : ProfileNumber) (family family' : String)
    {tier : Int} (h : 1 ≤ tier) :
    ((s.raiseTier profile family tier).tierFacts profile).recordedTier family' =
      if family' = family then max ((s.tierFacts profile).recordedTier family) tier
      else (s.tierFacts profile).recordedTier family' := by
  simp only [TierFacts.recordedTier, tierFacts, raiseTier, Table.get?_ofProfile,
    OrderedMap.get?_insert, Prod.mk.injEq, true_and]
  by_cases hfamily : family' = family
  · subst hfamily
    cases s.tiers.get? (profile, family') with
    | none => simp [max_eq_right h]
    | some old => simp
  · simp [hfamily, Ne.symm hfamily]

variable {facts : TierFacts} {highest : String → Int}

/-- Raising takes the higher tier, provided that no recorded tier was lowered since the
facts were looked at. -/
theorem recordedTier_raiseFrom (s : Store) (family family' : String)
    (hpos : ∀ family, 1 ≤ highest family)
    (h : facts.recordedTier family ≤ (s.tierFacts profile).recordedTier family) :
    ((s.raiseFrom profile facts highest family).tierFacts profile).recordedTier family' =
      if family' = family then
        max ((s.tierFacts profile).recordedTier family) (highest family)
      else (s.tierFacts profile).recordedTier family' := by
  unfold raiseFrom
  split
  · exact recordedTier_raiseTier s profile family family' (hpos family)
  · split
    · rename_i hfamily
      rw [hfamily]
      omega
    · rfl

/-- **Raising several tiers takes the higher one for each of them.** -/
theorem recordedTier_foldl_raiseFrom (s : Store) (families : List String) (family : String)
    (hpos : ∀ family, 1 ≤ highest family)
    (h : ∀ family, facts.recordedTier family ≤ (s.tierFacts profile).recordedTier family) :
    ((families.foldl (raiseFrom profile facts highest) s).tierFacts profile).recordedTier family =
      if family ∈ families then
        max ((s.tierFacts profile).recordedTier family) (highest family)
      else (s.tierFacts profile).recordedTier family := by
  induction families generalizing s with
  | nil => simp
  | cons g families ih =>
    have hstep := fun family' => recordedTier_raiseFrom s g family' hpos (h g)
    have hkept : ∀ family', facts.recordedTier family' ≤
        ((s.raiseFrom profile facts highest g).tierFacts profile).recordedTier family' := by
      intro family'
      rw [hstep family']
      have hold := h family'
      split
      · rename_i hfamily
        rw [hfamily] at hold ⊢
        omega
      · exact hold
    rw [List.foldl_cons, ih _ hkept, hstep]
    by_cases hg : family = g
    · subst hg
      simp
    · simp [hg]

/-- Raising tiers changes nothing but recorded tiers. -/
theorem exists_foldl_raiseFrom (s : Store) (families : List String) :
    ∃ tiers, families.foldl (raiseFrom profile facts highest) s = { s with tiers := tiers } := by
  induction families generalizing s with
  | nil => exact ⟨s.tiers, rfl⟩
  | cons g families ih =>
    obtain ⟨tiers, htiers⟩ := ih (s.raiseFrom profile facts highest g)
    refine ⟨tiers, ?_⟩
    rw [List.foldl_cons, htiers]
    unfold raiseFrom
    split <;> rfl

end Store

namespace Tutor

theorem store_refreshTiers (t : Tutor) (profile : ProfileNumber) (families : List String) :
    (t.refreshTiers profile families).store =
      families.foldl (Store.raiseFrom profile (t.store.tierFacts profile)
        ((t.store.tierFacts profile).highestTier t.families)) t.store := rfl

/-- **Refreshing takes the highest tier of each family in the list**, and leaves the
recorded tiers of the others. -/
theorem recordedTier_refreshTiers (t : Tutor) (profile : ProfileNumber) (families : List String)
    (family : String) :
    ((t.refreshTiers profile families).store.tierFacts profile).recordedTier family =
      if family ∈ families then
        max ((t.store.tierFacts profile).recordedTier family)
          ((t.store.tierFacts profile).highestTier t.families family)
      else (t.store.tierFacts profile).recordedTier family := by
  rw [store_refreshTiers]
  exact Store.recordedTier_foldl_raiseFrom t.store families family
    (fun g => TierFacts.one_le_highestTier _ t.families g) fun _ => le_rfl

/-- Refreshing changes nothing but recorded tiers. -/
theorem exists_refreshTiers (t : Tutor) (profile : ProfileNumber) (families : List String) :
    ∃ tiers, t.refreshTiers profile families =
      { t with store := { t.store with tiers := tiers } } := by
  obtain ⟨tiers, htiers⟩ := Store.exists_foldl_raiseFrom t.store families
  refine ⟨tiers, ?_⟩
  rw [← htiers]
  rfl

section Refreshed

variable (t : Tutor) (profile : ProfileNumber) (families : List String)

@[simp] theorem families_refreshTiers : (t.refreshTiers profile families).families = t.families :=
  rfl

@[simp] theorem tools_refreshTiers :
    (t.refreshTiers profile families).store.tools = t.store.tools := by
  obtain ⟨tiers, htiers⟩ := t.exists_refreshTiers profile families
  rw [htiers]

@[simp] theorem quizzes_refreshTiers :
    (t.refreshTiers profile families).store.quizzes = t.store.quizzes := by
  obtain ⟨tiers, htiers⟩ := t.exists_refreshTiers profile families
  rw [htiers]

@[simp] theorem gates_refreshTiers :
    (t.refreshTiers profile families).store.gates = t.store.gates := by
  obtain ⟨tiers, htiers⟩ := t.exists_refreshTiers profile families
  rw [htiers]

end Refreshed

/-- A tutor with other review schedules. -/
def withReviews (t : Tutor) (reviews : Table String ReviewSchedule) : Tutor :=
  { t with store := { t.store with reviews } }

@[simp] theorem families_withReviews (t : Tutor) (reviews : Table String ReviewSchedule) :
    (t.withReviews reviews).families = t.families := rfl

@[simp] theorem tierFacts_withReviews (t : Tutor) (reviews : Table String ReviewSchedule)
    (profile : ProfileNumber) :
    (t.withReviews reviews).store.tierFacts profile = t.store.tierFacts profile := rfl

end Tutor

/-! ### Calls -/

/-- A call of the tutor that notes something of a learner. -/
inductive LearnerCall where
  /-- A tool was used. -/
  | tool (name : String)
  /-- A quiz was taken. -/
  | quiz (family : String) (score : Binary64)
  /-- An explanation gate was tried. -/
  | gate (family : String) (tier : Int) (scenario : String) (passed : Bool)
  /-- A lab was completed. -/
  | lab (now : Instant) (completed : Lab)
  /-- A family was reviewed. -/
  | review (now : Instant) (family : String) (success : Bool)

namespace LearnerCall

/-- Whether a call is the use of a tool. -/
def uses (name : String) : LearnerCall → Bool
  | .tool name' => name' == name
  | _ => false

/-- Whether a call is a quiz of a family that counts and is a pass: its score is a
percentage, and no less than the threshold. -/
def passesQuiz (family : String) : LearnerCall → Bool
  | .quiz family' score =>
    family' == family && Binary64.intLe quizThreshold score && score.leInt 100
  | _ => false

/-- The outcome of the gate that a call tries; completing a lab passes the gate of the
lab. -/
def gate? : LearnerCall → Option GateResult
  | .gate family tier scenario passed => some { passed, scenario, family, tier }
  | .lab _ completed => some {
      passed := true
      scenario := completed.id
      family := completed.family
      tier := completed.tier }
  | _ => none

variable {c : LearnerCall} {g : GateResult}

/-- A call that tries a gate uses no tool. -/
theorem uses_of_gate? (h : c.gate? = some g) (name : String) : c.uses name = false := by
  cases c <;> simp [gate?, uses] at h ⊢

/-- A call that tries a gate passes no quiz. -/
theorem passesQuiz_of_gate? (h : c.gate? = some g) (family : String) :
    c.passesQuiz family = false := by
  cases c <;> simp [gate?, passesQuiz] at h ⊢

end LearnerCall

namespace Tutor

/-- The tutor after a call for a learner. A call that is refused changes nothing, but that a
completed lab may have passed its gate before its review was refused. -/
def call (t : Tutor) (profile : ProfileNumber) : LearnerCall → Tutor
  | .tool name => t.markToolUsed profile name
  | .quiz family score =>
    match t.recordQuiz profile family score with
    | .ok (t', _) => t'
    | .error _ => t
  | .gate family tier scenario passed =>
    match t.recordGate profile family tier scenario passed with
    | .ok t' => t'
    | .error _ => t
  | .lab now completed => (t.completeLab now profile completed).1
  | .review now family success =>
    match t.store.recordReview now profile family success with
    | .ok (store, _) => { t with store }
    | .error _ => t

/-- The tutor after calls for a learner. -/
def calls (t : Tutor) (profile : ProfileNumber) (cs : List LearnerCall) : Tutor :=
  cs.foldl (fun t c => t.call profile c) t

theorem calls_concat (t : Tutor) (profile : ProfileNumber) (cs : List LearnerCall)
    (c : LearnerCall) :
    t.calls profile (cs ++ [c]) = (t.calls profile cs).call profile c := by
  simp [calls]

end Tutor

/-- A store in which the use of a tool is noted for some families. -/
def Store.notingTool (s : Store) (profile : ProfileNumber) (families : List String)
    (tool : String) : Store :=
  families.foldl (fun s family => s.markToolUsed profile family tool) s

/-- A store in which a quiz is noted. -/
def Store.notingQuiz (s : Store) (profile : ProfileNumber) (family : String) (score : Binary64) :
    Store :=
  let r := addQuiz (s.quizzes.get? (profile, family)) (Binary64.intLe quizThreshold score) score
  { s with
    quizzes := s.quizzes.insert (profile, family) { r with score := r.score.unsignedZero } }

/-- A store in which the outcome of a gate is noted. -/
def Store.notingGate (s : Store) (profile : ProfileNumber) (g : GateResult) : Store :=
  { s with gates := s.gates.insert (profile, Tutor.gateName g.family g.tier) g }

/-- **What a call can do**: it notes its fact and raises the tiers of the families that it
touches, or it notes nothing that counts for tiers. -/
inductive FactStep (t : Tutor) (profile : ProfileNumber) : LearnerCall → Tutor → Prop
  /-- A tool is noted for its families. -/
  | tool {name : String} : FactStep t profile (.tool name)
      ({ t with store := t.store.notingTool profile (t.families.ofTool name) name }.refreshTiers
        profile (t.families.ofTool name))
  /-- A quiz of a family that exists is noted, if its score is a percentage. -/
  | quiz {family : String} {score : Binary64} :
    Binary64.intLe 0 score = true → score.leInt 100 = true →
    FactStep t profile (.quiz family score)
      ({ t with store := t.store.notingQuiz profile family score }.refreshTiers profile [family])
  /-- The outcome of a gate is noted; after a lab, a review may be scheduled. -/
  | gate {c : LearnerCall} {g : GateResult} {reviews : Table String ReviewSchedule} :
    c.gate? = some g →
    FactStep t profile c
      (({ t with store := t.store.notingGate profile g }.refreshTiers profile
        [g.family]).withReviews reviews)
  /-- Nothing is noted that counts for tiers. -/
  | idle {c : LearnerCall} {reviews : Table String ReviewSchedule} :
    (∀ name, c.uses name = false) →
    (∀ family, t.families.contains family = true → c.passesQuiz family = false) →
    (∀ g, c.gate? = some g → fitsStore g.tier = false) →
    FactStep t profile c (t.withReviews reviews)

namespace Store

theorem exists_reviews_of_putOff {s : Store} {now : Instant} {family : String} {days : Nat}
    {successes : Nat} {r : Store × ReviewSchedule}
    (h : s.putOff now profile family days successes = .ok r) :
    ∃ reviews, r.1 = { s with reviews := reviews } := by
  unfold putOff at h
  split at h
  · simp at h
  · obtain rfl := Except.ok.inj h
    exact ⟨_, rfl⟩

/-- A quiz of which the score is a percentage is noted. -/
theorem recordQuiz_of_percentage {s : Store} {family : String} {score : Binary64}
    (h : Binary64.intLe 0 score = true) :
    s.recordQuiz profile family (Binary64.intLe quizThreshold score) score =
      .ok (s.notingQuiz profile family score,
        addQuiz (s.quizzes.get? (profile, family)) (Binary64.intLe quizThreshold score) score) := by
  have hdefined : ∀ old : Binary64, score.max old ≠ .undefined := by
    intro old
    refine Binary64.ne_undefined_of_intLe (n := 0) ?_
    rw [Binary64.intLe_max (Binary64.ne_undefined_of_intLe h), h, Bool.true_or]
  simp [recordQuiz, notingQuiz, addQuiz, hdefined]

theorem recordGate_eq (s : Store) (profile : ProfileNumber) (g : GateResult) :
    s.recordGate profile (Tutor.gateName g.family g.tier) g =
      if fitsStore g.tier then .ok (s.notingGate profile g) else .error .numberTooLarge := by
  cases h : fitsStore g.tier <;> simp [recordGate, notingGate, h]

end Store

namespace Tutor

theorem recordGate_eq (t : Tutor) (profile : ProfileNumber) (g : GateResult) :
    t.recordGate profile g.family g.tier g.scenario g.passed =
      if fitsStore g.tier then
        .ok ({ t with store := t.store.notingGate profile g }.refreshTiers profile [g.family])
      else .error .numberTooLarge := by
  rw [recordGate, Store.recordGate_eq]
  split <;> rfl

theorem exists_reviews_of_reviewAfterLab {t t' : Tutor} {now : Instant} {family : String}
    (h : t.reviewAfterLab now profile family = .ok t') :
    ∃ reviews, t' = t.withReviews reviews := by
  obtain ⟨r, hr, rfl⟩ := map_eq_ok.1 h
  have hreviews : ∃ reviews, r.1 = { t.store with reviews := reviews } := by
    split at hr
    · exact Store.exists_reviews_of_putOff hr
    · exact Store.exists_reviews_of_putOff hr
  obtain ⟨reviews, hreviews⟩ := hreviews
  exact ⟨reviews, by rw [hreviews]; rfl⟩

/-- A call that notes nothing and changes nothing is idle. -/
theorem factStep_self {c : LearnerCall} (huses : ∀ name, c.uses name = false)
    (hquiz : ∀ family, t.families.contains family = true → c.passesQuiz family = false)
    (hgate : ∀ g, c.gate? = some g → fitsStore g.tier = false) : FactStep t profile c t :=
  @FactStep.idle t profile c t.store.reviews huses hquiz hgate

theorem factStep_quiz (t : Tutor) (profile : ProfileNumber) (family : String) (score : Binary64) :
    FactStep t profile (.quiz family score) (t.call profile (.quiz family score)) := by
  by_cases hfamily : t.families.contains family = true
  · by_cases hscore : Binary64.intLe 0 score = true ∧ score.leInt 100 = true
    · have hcall : t.call profile (.quiz family score) =
          { t with store := t.store.notingQuiz profile family score }.refreshTiers
            profile [family] := by
        simp [call, recordQuiz, hfamily, hscore, Store.recordQuiz_of_percentage]
      rw [hcall]
      exact .quiz hscore.1 hscore.2
    · have hcall : t.call profile (.quiz family score) = t := by
        have hrange : (Binary64.intLe 0 score && score.leInt 100) = false := by
          rw [Bool.eq_false_iff, Ne, Bool.and_eq_true]
          exact hscore
        simp [call, recordQuiz, hfamily, hrange]
      rw [hcall]
      refine factStep_self (fun _ => rfl) (fun family' _ => ?_) (by simp [LearnerCall.gate?])
      -- A score that reaches the threshold is no less than zero.
      by_contra hpass
      simp only [LearnerCall.passesQuiz, Bool.not_eq_false, Bool.and_eq_true] at hpass
      exact hscore ⟨Binary64.intLe_of_intLe (by decide) hpass.1.2, hpass.2⟩
  · have hcall : t.call profile (.quiz family score) = t := by
      simp [call, recordQuiz, hfamily]
    rw [hcall]
    refine factStep_self (fun _ => rfl) (fun family' hfamily' => ?_) (by simp [LearnerCall.gate?])
    have hne : family ≠ family' := fun h => hfamily (h ▸ hfamily')
    simp [LearnerCall.passesQuiz, hne]

/-- A gate that is refused is idle. -/
theorem factStep_of_refused {c : LearnerCall} {g : GateResult} (hc : c.gate? = some g)
    (h : fitsStore g.tier = false) : FactStep t profile c t := by
  refine factStep_self (LearnerCall.uses_of_gate? hc)
    (fun family _ => LearnerCall.passesQuiz_of_gate? hc family) fun g' hg' => ?_
  rw [← Option.some.inj (hc.symm.trans hg')]
  exact h

theorem factStep_gate (t : Tutor) (profile : ProfileNumber) (family : String) (tier : Int)
    (scenario : String) (passed : Bool) :
    FactStep t profile (.gate family tier scenario passed)
      (t.call profile (.gate family tier scenario passed)) := by
  have hrecord := recordGate_eq t profile { passed, scenario, family, tier }
  by_cases hfits : fitsStore tier = true
  · simp only [call, hrecord, hfits, if_true]
    exact @FactStep.gate t profile _ _ (refreshTiers _ profile [family]).store.reviews rfl
  · rw [Bool.not_eq_true] at hfits
    simp only [call, hrecord, hfits, Bool.false_eq_true, if_false]
    exact factStep_of_refused rfl hfits

/-- A completed lab passes its gate, even where its review is refused. -/
theorem factStep_lab (t : Tutor) (profile : ProfileNumber) (now : Instant) (completed : Lab) :
    FactStep t profile (.lab now completed) (t.call profile (.lab now completed)) := by
  have hrecord := recordGate_eq t profile
    { passed := true, scenario := completed.id, family := completed.family, tier := completed.tier }
  by_cases hfits : fitsStore completed.tier = true
  · simp only [call, completeLab, hrecord, hfits, if_true]
    split
    · exact @FactStep.gate t profile _ _
        (refreshTiers _ profile [completed.family]).store.reviews rfl
    · rename_i hreview
      obtain ⟨reviews, rfl⟩ := exists_reviews_of_reviewAfterLab hreview
      exact .gate rfl
  · rw [Bool.not_eq_true] at hfits
    simp only [call, completeLab, hrecord, hfits, Bool.false_eq_true, if_false]
    exact factStep_of_refused rfl hfits

/-- A review counts for nothing but reviews. -/
theorem factStep_review (t : Tutor) (profile : ProfileNumber) (now : Instant) (family : String)
    (success : Bool) :
    FactStep t profile (.review now family success)
      (t.call profile (.review now family success)) := by
  have hnone : ∀ g, LearnerCall.gate? (.review now family success) = some g →
      fitsStore g.tier = false := by simp [LearnerCall.gate?]
  cases hreview : t.store.recordReview now profile family success with
  | error fault =>
    simp only [call, hreview]
    exact factStep_self (fun _ => rfl) (fun _ _ => rfl) hnone
  | ok r =>
    obtain ⟨reviews, hreviews⟩ := Store.exists_reviews_of_putOff hreview
    simp only [call, hreview, hreviews]
    exact @FactStep.idle t profile _ reviews (fun _ => rfl) (fun _ _ => rfl) hnone

/-- **A call does one of the things that a call can do.** -/
theorem factStep_call (t : Tutor) (profile : ProfileNumber) (c : LearnerCall) :
    FactStep t profile c (t.call profile c) := by
  cases c with
  | tool name => exact .tool
  | quiz family score => exact factStep_quiz t profile family score
  | gate family tier scenario passed => exact factStep_gate t profile family tier scenario passed
  | lab now completed => exact factStep_lab t profile now completed
  | review now family success => exact factStep_review t profile now family success

end Tutor

end ClusterTutor
