import ClusterTutor.Proofs.Tier.Calls

/-!
# Recorded tiers are a high-water mark

What a learner has earned so far can be told from the calls alone: a quiz that counts and is
a pass, every tool of the family used, and the latest try of the second gate
(`ClusterTutor.earnedBy`). It goes up and down, for a gate may be failed after it was passed.
The tier that is recorded does not: it is the highest that was ever earned
(`ClusterTutor.Tutor.recordedTier_isGreatest`).

There are two invariants behind this. The tables of the store say of the calls what the
rules ask for (`ClusterTutor.Remembers`), so that the rules, applied to the tables, find what
was earned by the calls. And every call that changes what was earned of a family touches
the family (`ClusterTutor.earnedBy_concat_of_not_concerns`), so that refreshing the touched
ones is enough.
-/

namespace ClusterTutor

/-! ### What calls have earned -/

/-- The latest outcome of the second gate of a family. -/
def latestGate? (cs : List LearnerCall) (family : String) : Option GateResult :=
  ((cs.filterMap LearnerCall.gate?).filter fun g => g.family == family && g.tier == 2).getLast?

/-- The tier of a family that calls have earned: the second one if a quiz was passed and
every tool used, and the third one if, moreover, the second gate stands passed. -/
def earnedBy (cs : List LearnerCall) (f : Family) : Int :=
  if cs.any (·.passesQuiz f.id) && f.toolNames.all fun name => cs.any (·.uses name) then
    if (latestGate? cs f.id).any GateResult.passed then 3 else 2
  else 1

theorem earnedBy_bounds (cs : List LearnerCall) (f : Family) :
    1 ≤ earnedBy cs f ∧ earnedBy cs f ≤ maxTier := by
  unfold earnedBy
  split
  · split <;> decide
  · decide

/-- The third tier is earned by a quiz that is a pass, by every tool, and by a passed second
gate. -/
theorem of_earnedBy_eq_three {cs : List LearnerCall} {f : Family} (h : earnedBy cs f = 3) :
    cs.any (·.passesQuiz f.id) = true ∧
      (∀ name ∈ f.toolNames, ∃ c ∈ cs, c.uses name = true) ∧
      ∃ c ∈ cs, ∃ g, c.gate? = some g ∧ g.family = f.id ∧ g.tier = 2 := by
  unfold earnedBy at h
  split at h
  · rename_i htwo
    rw [Bool.and_eq_true, List.all_eq_true] at htwo
    split at h
    · rename_i hgate
      obtain ⟨g, hlatest, -⟩ := (Option.any_eq_true _ _).1 hgate
      have hmem := List.mem_of_getLast? hlatest
      rw [List.mem_filter, List.mem_filterMap, Bool.and_eq_true, beq_iff_eq, beq_iff_eq] at hmem
      obtain ⟨⟨c, hc, hg⟩, hfamily, htier⟩ := hmem
      refine ⟨htwo.1, fun name hname => ?_, c, hc, g, hg, hfamily, htier⟩
      exact List.any_eq_true.1 (htwo.2 name hname)
    · exact absurd h (by decide)
  · exact absurd h (by decide)

theorem latestGate?_concat (cs : List LearnerCall) (c : LearnerCall) (family : String) :
    latestGate? (cs ++ [c]) family =
      (c.gate?.filter fun g => g.family == family && g.tier == 2).or (latestGate? cs family) := by
  cases hc : c.gate? with
  | none => simp [latestGate?, hc]
  | some g =>
    by_cases hg : (g.family == family && g.tier == 2) = true
    · simp [latestGate?, hc, hg, Option.filter]
    · simp [latestGate?, hc, hg, Option.filter]

/-- Whether what was earned of a family may depend on a call. -/
def LearnerCall.Concerns (c : LearnerCall) (f : Family) : Prop :=
  (∃ name ∈ f.toolNames, c.uses name = true) ∨ c.passesQuiz f.id = true ∨
    ∃ g, c.gate? = some g ∧ g.family = f.id ∧ g.tier = 2

/-- **A call that does not concern a family earns nothing of it**, and loses nothing. -/
theorem earnedBy_concat_of_not_concerns {c : LearnerCall} {f : Family} (h : ¬c.Concerns f)
    (cs : List LearnerCall) : earnedBy (cs ++ [c]) f = earnedBy cs f := by
  simp only [LearnerCall.Concerns, not_or, not_exists, not_and] at h
  obtain ⟨huses, hquiz, hgate⟩ := h
  have htools : (f.toolNames.all fun name => (cs ++ [c]).any (·.uses name)) =
      f.toolNames.all fun name => cs.any (·.uses name) := by
    rw [Bool.eq_iff_iff, List.all_eq_true, List.all_eq_true]
    refine forall₂_congr fun name hname => ?_
    simp [huses name hname]
  have hlatest : latestGate? (cs ++ [c]) f.id = latestGate? cs f.id := by
    rw [latestGate?_concat]
    cases hc : c.gate? with
    | none => rfl
    | some g =>
      have hother : (g.family == f.id && g.tier == 2) = false := by
        simpa using hgate g hc
      simp [Option.filter, hother]
  have hpassed : (cs ++ [c]).any (·.passesQuiz f.id) = cs.any (·.passesQuiz f.id) := by
    simp [hquiz]
  simp only [earnedBy, htools, hlatest, hpassed]

/-! ### What the store remembers -/

/-- **The tables of the store remember the calls** for a profile, as far as tiers depend on
them. -/
structure Remembers (families : Families) (profile : ProfileNumber) (cs : List LearnerCall)
    (s : Store) : Prop where
  /-- Of the tools of a family, those that were used are known to be. -/
  tools : ∀ id f, families.get? id = some f → ∀ name ∈ f.toolNames,
    (name ∈ (s.tools.get? (profile, id)).getD .empty ↔ cs.any (·.uses name) = true)
  /-- The best score of a family is a pass if there was one. -/
  quizzes : ∀ id, families.contains id = true →
    ((s.quizzes.get? (profile, id)).any fun r => Binary64.intLe quizThreshold r.score) =
      cs.any (·.passesQuiz id)
  /-- Gates have the names of their family and tier. -/
  named : ∀ name g, s.gates.get? (profile, name) = some g → name = Tutor.gateName g.family g.tier
  /-- The latest outcome of the second gate of a family is known. -/
  gates : ∀ id, s.gates.get? (profile, Tutor.gateName id 2) = latestGate? cs id

/-- A store that has no facts of a profile that tiers depend on. -/
structure Store.KnowsNothingOf (s : Store) (profile : ProfileNumber) : Prop where
  /-- No tools were used. -/
  tools : ∀ family, s.tools.get? (profile, family) = none
  /-- No quiz was taken. -/
  quizzes : ∀ family, s.quizzes.get? (profile, family) = none
  /-- No tier was recorded. -/
  tiers : ∀ family, s.tiers.get? (profile, family) = none
  /-- No gate was tried. -/
  gates : ∀ name, s.gates.get? (profile, name) = none

variable {families : Families} {profile : ProfileNumber} {cs : List LearnerCall} {s s' : Store}
  {t t' : Tutor} {c : LearnerCall} {id : String} {f : Family}

theorem Store.KnowsNothingOf.remembers (h : s.KnowsNothingOf profile) (families : Families) :
    Remembers families profile [] s where
  tools id f _ name _ := by simp [h.tools]
  quizzes id _ := by simp [h.quizzes]
  named name g hg := by simp [h.gates] at hg
  gates id := by simp [h.gates, latestGate?]

namespace Remembers

/-- The best quiz was passed if any was. -/
theorem quizPassed_eq (h : Remembers families profile cs s) (hid : families.contains id = true) :
    (s.tierFacts profile).quizPassed id = cs.any (·.passesQuiz id) := by
  simp [TierFacts.quizPassed, Store.tierFacts, h.quizzes id hid]

/-- No tool is missing if each of them was used. -/
theorem isEmpty_missingTools (h : Remembers families profile cs s)
    (hf : families.get? f.id = some f) :
    ((s.tierFacts profile).missingTools f).isEmpty =
      f.toolNames.all fun name => cs.any (·.uses name) := by
  rw [Bool.eq_iff_iff, List.isEmpty_iff, TierFacts.missingTools, List.filter_eq_nil_iff,
    List.all_eq_true]
  refine forall₂_congr fun name hname => ?_
  rw [← h.tools f.id f hf name hname, ← NameSet.contains_iff]
  simp [Store.tierFacts]

/-- The second gate stands passed if its latest outcome is a pass. Other gates have other
names, so none of them is taken for it. -/
theorem gatePassed_eq (h : Remembers families profile cs s) (id : String) :
    (s.tierFacts profile).gatePassed id 2 = (latestGate? cs id).any GateResult.passed := by
  rw [← h.gates id, Bool.eq_iff_iff, TierFacts.gatePassed, OrderedMap.values, List.any_map,
    List.any_eq_true]
  constructor
  · rintro ⟨⟨name, g⟩, hmem, hg⟩
    simp only [Function.comp_apply, Bool.and_eq_true, beq_iff_eq] at hg
    obtain ⟨⟨hpassed, hfamily⟩, htier⟩ := hg
    have hget : s.gates.get? (profile, name) = some g := by
      rw [← Table.get?_ofProfile]
      exact (OrderedMap.mem_toList_iff _ name g).1 hmem
    rw [h.named name g hget, hfamily, htier] at hget
    simp [hget, hpassed]
  · intro hany
    cases hget : s.gates.get? (profile, Tutor.gateName id 2) with
    | none => simp [hget] at hany
    | some g =>
      have hname := Tutor.gateName_inj.1 (h.named _ g hget)
      rw [hget] at hany
      rw [← Table.get?_ofProfile, ← OrderedMap.mem_toList_iff] at hget
      refine ⟨_, hget, ?_⟩
      simpa [← hname.1, ← hname.2] using hany

/-- **The rules, applied to the tables, find what was earned by the calls.** -/
theorem earnedTier_eq (h : Remembers families profile cs s) (hkeyed : families.Keyed)
    (hf : families.get? id = some f) :
    (s.tierFacts profile).earnedTier families id = earnedBy cs f := by
  obtain rfl := hkeyed id f hf
  have hknown : families.contains f.id = true := by simp [OrderedMap.contains, hf]
  have hopens : ∀ tier, (s.tierFacts profile).opens families f.id tier =
      (s.tierFacts profile).earned f.id f tier := by
    intro tier
    simp [TierFacts.opens, hf]
  rw [TierFacts.earnedTier_eq, hopens, hopens]
  simp only [TierFacts.earned, h.quizPassed_eq hknown, h.isEmpty_missingTools hf,
    h.gatePassed_eq f.id, earnedBy]
  -- What is left is a statement on three truth values.
  generalize (cs.any fun c => c.passesQuiz f.id) = quizPassed
  generalize (f.toolNames.all fun name => cs.any fun c => c.uses name) = toolsUsed
  generalize (latestGate? cs f.id).any GateResult.passed = gatePassed
  cases quizPassed <;> cases toolsUsed <;> cases gatePassed <;> rfl

end Remembers

/-! ### What a call adds -/

theorem mem_tools_notingTool (s : Store) (profile : ProfileNumber) (touched : List String)
    (id tool name : String) :
    name ∈ ((s.notingTool profile touched tool).tools.get? (profile, id)).getD .empty ↔
      id ∈ touched ∧ name = tool ∨ name ∈ (s.tools.get? (profile, id)).getD .empty := by
  simp only [Store.notingTool]
  induction touched generalizing s with
  | nil => simp
  | cons family touched ih =>
    rw [List.foldl_cons, ih]
    by_cases hid : family = id
    · subst hid
      simp [Store.markToolUsed]
      tauto
    · simp [Store.markToolUsed, hid, Ne.symm hid]

/-- Noting a tool changes nothing but the tools. -/
theorem exists_notingTool (s : Store) (profile : ProfileNumber) (touched : List String)
    (tool : String) :
    ∃ tools, s.notingTool profile touched tool = { s with tools := tools } := by
  simp only [Store.notingTool]
  induction touched generalizing s with
  | nil => exact ⟨s.tools, rfl⟩
  | cons family touched ih =>
    obtain ⟨tools, htools⟩ := ih (s.markToolUsed profile family tool)
    exact ⟨tools, htools⟩

/-- The use of a tool is remembered for all its families. -/
theorem Remembers.notingTool (h : Remembers families profile cs s) (hkeyed : families.Keyed)
    (name : String) :
    Remembers families profile (cs ++ [.tool name])
      (s.notingTool profile (families.ofTool name) name) := by
  obtain ⟨tools, htools⟩ := exists_notingTool s profile (families.ofTool name) name
  refine ⟨fun id f hf used hused => ?_, fun id hid => ?_, fun gate g hg => ?_, fun id => ?_⟩
  · rw [mem_tools_notingTool, hkeyed.mem_ofTool, h.tools id f hf used hused]
    simp only [List.any_append, List.any_cons, List.any_nil, LearnerCall.uses, Bool.or_false,
      Bool.or_eq_true, beq_iff_eq]
    constructor
    · rintro (⟨-, rfl⟩ | hused)
      · exact Or.inr rfl
      · exact Or.inl hused
    · rintro (hearlier | rfl)
      · exact Or.inr hearlier
      · exact Or.inl ⟨⟨f, hf, hused⟩, rfl⟩
  · simpa [htools, LearnerCall.passesQuiz] using h.quizzes id hid
  · exact h.named gate g (by simpa [htools] using hg)
  · simpa [htools, latestGate?_concat, LearnerCall.gate?] using h.gates id

/-- The best score of a family is remembered. -/
theorem Remembers.notingQuiz (h : Remembers families profile cs s) {family : String}
    {score : Binary64} (hzero : Binary64.intLe 0 score = true) (hhundred : score.leInt 100 = true) :
    Remembers families profile (cs ++ [.quiz family score])
      (s.notingQuiz profile family score) := by
  refine ⟨fun id f hf used hused => ?_, fun id hid => ?_, fun gate g hg => ?_, fun id => ?_⟩
  · simpa [Store.notingQuiz, LearnerCall.uses] using h.tools id f hf used hused
  · by_cases hfamily : family = id
    · subst hfamily
      -- Of the new score and the best one so far the larger is a pass if one of them is.
      have hbest := Binary64.intLe_max (Binary64.ne_undefined_of_intLe hzero)
        (((s.quizzes.get? (profile, family)).map QuizResult.score).getD (.finite 0)) quizThreshold
      have hold : Binary64.intLe quizThreshold
          (((s.quizzes.get? (profile, family)).map QuizResult.score).getD (.finite 0)) =
            cs.any (·.passesQuiz family) := by
        rw [← h.quizzes family hid]
        cases s.quizzes.get? (profile, family) with
        | none => simp [Binary64.intLe_zero, quizThreshold]
        | some r => rfl
      have hpass : (LearnerCall.quiz family score).passesQuiz family =
          Binary64.intLe quizThreshold score := by
        simp [LearnerCall.passesQuiz, hhundred]
      simp [Store.notingQuiz, Store.addQuiz, hbest, hold, hpass, Bool.or_comm]
    · have hother : (family == id) = false := by simpa using hfamily
      simpa [Store.notingQuiz, LearnerCall.passesQuiz, hfamily, hother] using h.quizzes id hid
  · exact h.named gate g hg
  · simpa [Store.notingQuiz, latestGate?_concat, LearnerCall.gate?] using h.gates id

/-- The latest outcome of a gate is remembered. -/
theorem Remembers.notingGate (h : Remembers families profile cs s) {g : GateResult}
    (hc : c.gate? = some g) :
    Remembers families profile (cs ++ [c]) (s.notingGate profile g) := by
  refine ⟨fun id f hf used hused => ?_, fun id hid => ?_, fun name g' hg' => ?_, fun id => ?_⟩
  · simpa [Store.notingGate, LearnerCall.uses_of_gate? hc] using h.tools id f hf used hused
  · simpa [Store.notingGate, LearnerCall.passesQuiz_of_gate? hc] using h.quizzes id hid
  · simp only [Store.notingGate, OrderedMap.get?_insert] at hg'
    split at hg'
    · rename_i hname
      obtain rfl := Option.some.inj hg'
      exact (Prod.ext_iff.1 hname).2.symm
    · exact h.named name g' hg'
  · rw [latestGate?_concat, hc]
    simp only [Store.notingGate, OrderedMap.get?_insert, Prod.mk.injEq, true_and,
      Tutor.gateName_inj, h.gates id]
    by_cases hg : g.family = id ∧ g.tier = 2
    · simp [hg, Option.filter]
    · have hother : (g.family == id && g.tier == 2) = false := by simpa using hg
      simp [hg, hother, Option.filter]

/-- A call that counts for nothing is as good as not made. -/
theorem Remembers.idle (h : Remembers families profile cs s)
    (huses : ∀ name, c.uses name = false)
    (hquiz : ∀ id, families.contains id = true → c.passesQuiz id = false)
    (hgate : ∀ g, c.gate? = some g → fitsStore g.tier = false) :
    Remembers families profile (cs ++ [c]) s := by
  refine ⟨fun id f hf used hused => ?_, fun id hid => ?_, h.named, fun id => ?_⟩
  · simpa [huses] using h.tools id f hf used hused
  · simpa [hquiz id hid] using h.quizzes id hid
  · rw [latestGate?_concat, h.gates id]
    cases hc : c.gate? with
    | none => rfl
    | some g =>
      -- The second tier fits into the store, so the gate is of another one.
      have hother : (g.family == id && g.tier == 2) = false := by
        by_contra hsecond
        simp only [Bool.not_eq_false, Bool.and_eq_true, beq_iff_eq] at hsecond
        have hfits := hgate g hc
        rw [hsecond.2] at hfits
        exact absurd hfits (by decide)
      simp [Option.filter, hother]

theorem Remembers.congr (h : Remembers families profile cs s) (htools : s'.tools = s.tools)
    (hquizzes : s'.quizzes = s.quizzes) (hgates : s'.gates = s.gates) :
    Remembers families profile cs s' where
  tools := by rw [htools]; exact h.tools
  quizzes := by rw [hquizzes]; exact h.quizzes
  named := by rw [hgates]; exact h.named
  gates := by rw [hgates]; exact h.gates

/-- **The tables remember every call.** -/
theorem Remembers.step (h : Remembers t.families profile cs t.store) (hkeyed : t.families.Keyed)
    (hstep : FactStep t profile c t') : Remembers t.families profile (cs ++ [c]) t'.store := by
  cases hstep with
  | tool => exact (h.notingTool hkeyed _).congr (by simp) (by simp) (by simp)
  | quiz hzero hhundred => exact (h.notingQuiz hzero hhundred).congr (by simp) (by simp) (by simp)
  | gate hc =>
    exact (h.notingGate hc).congr (by simp [Tutor.withReviews]) (by simp [Tutor.withReviews])
      (by simp [Tutor.withReviews])
  | idle huses hquiz hgate => exact (h.idle huses hquiz hgate).congr rfl rfl rfl

/-! ### The high-water mark -/

/-- The recorded tier of a family of a learner. -/
def Tutor.recordedTier (t : Tutor) (profile : ProfileNumber) (id : String) : Int :=
  (t.store.tierFacts profile).recordedTier id

@[simp] theorem Tutor.recordedTier_withReviews (t : Tutor) (profile : ProfileNumber) (id : String)
    (reviews : Table String ReviewSchedule) :
    (t.withReviews reviews).recordedTier profile id = t.recordedTier profile id := rfl

/-- What a learner earned of a family at some moment of the calls. -/
def EarnedSometime (cs : List LearnerCall) (f : Family) (tier : Int) : Prop :=
  ∃ earlier, earlier <+: cs ∧ earnedBy earlier f = tier

theorem setOf_earnedSometime_concat (cs : List LearnerCall) (c : LearnerCall) (f : Family) :
    {tier | EarnedSometime (cs ++ [c]) f tier} =
      insert (earnedBy (cs ++ [c]) f) {tier | EarnedSometime cs f tier} := by
  ext tier
  simp only [EarnedSometime, Set.mem_ofPred_eq, Set.mem_insert_iff, List.prefix_concat_iff]
  constructor
  · rintro ⟨earlier, rfl | hearlier, htier⟩
    · exact Or.inl htier.symm
    · exact Or.inr ⟨earlier, hearlier, htier⟩
  · rintro (rfl | ⟨earlier, hearlier, htier⟩)
    · exact ⟨_, Or.inl rfl, rfl⟩
    · exact ⟨earlier, Or.inr hearlier, htier⟩

/-- **The recorded tier of a family is its high-water mark**: the highest tier that was ever
earned, and the tables remember what is earned now. -/
structure HighWater (families : Families) (profile : ProfileNumber) (cs : List LearnerCall)
    (t : Tutor) : Prop where
  /-- The families are the same. -/
  families_eq : t.families = families
  /-- The tables remember the calls. -/
  remembers : Remembers families profile cs t.store
  /-- The recorded tier is the highest that was ever earned. -/
  isGreatest : ∀ id f, families.get? id = some f →
    IsGreatest {tier | EarnedSometime cs f tier} (t.recordedTier profile id)

namespace HighWater

/-- A recorded tier is one of the three. -/
theorem bounds (h : HighWater families profile cs t) (hf : families.get? id = some f) :
    1 ≤ t.recordedTier profile id ∧ t.recordedTier profile id ≤ maxTier := by
  obtain ⟨earlier, -, htier⟩ := (h.isGreatest id f hf).1
  rw [← htier]
  exact earnedBy_bounds earlier f

/-- What is earned now is no more than what is recorded. -/
theorem earnedBy_le (h : HighWater families profile cs t) (hf : families.get? id = some f) :
    earnedBy cs f ≤ t.recordedTier profile id :=
  (h.isGreatest id f hf).2 ⟨cs, List.prefix_rfl, rfl⟩

/-- The highest unlocked tier is the recorded one. -/
theorem highestTier_eq (h : HighWater families profile cs t) (hkeyed : families.Keyed)
    (hf : families.get? id = some f) :
    (t.store.tierFacts profile).highestTier t.families id = t.recordedTier profile id := by
  obtain ⟨hlow, hhigh⟩ := h.bounds hf
  rw [h.families_eq, TierFacts.highestTier_eq_max families hlow hhigh,
    h.remembers.earnedTier_eq hkeyed hf]
  exact max_eq_left (h.earnedBy_le hf)

end HighWater

/-- **What refreshing records**, once a fact is noted: the tier that is earned by then, if it
is higher than the recorded one. Where the family is not touched, it must be that nothing
new was earned of it. -/
theorem recordedTier_refreshTiers_eq_max {noted : Store} {touched : List String}
    (h : HighWater families profile cs t) (hkeyed : families.Keyed)
    (hf : families.get? id = some f) (htiers : noted.tiers = t.store.tiers)
    (hnoted : Remembers families profile (cs ++ [c]) noted)
    (htouched : c.Concerns f → id ∈ touched) :
    ({ t with store := noted }.refreshTiers profile touched).recordedTier profile id =
      max (earnedBy (cs ++ [c]) f) (t.recordedTier profile id) := by
  have hrecorded : (noted.tierFacts profile).recordedTier id = t.recordedTier profile id := by
    simp only [Tutor.recordedTier, TierFacts.recordedTier, Store.tierFacts, htiers]
  obtain ⟨hlow, hhigh⟩ := h.bounds hf
  rw [← hrecorded] at hlow hhigh
  rw [Tutor.recordedTier, Tutor.recordedTier_refreshTiers]
  simp only [h.families_eq, TierFacts.highestTier_eq_max families hlow hhigh,
    hnoted.earnedTier_eq hkeyed hf, hrecorded]
  split
  · rw [← max_assoc, max_self, max_comm]
  · -- A family that is not touched is not concerned, and what it had earned was recorded.
    rename_i hother
    have hsame := earnedBy_concat_of_not_concerns (mt htouched hother) cs
    rw [hsame, max_eq_right (h.earnedBy_le hf)]

/-- A call that uses a tool concerns the families of the tool only. -/
theorem mem_ofTool_of_concerns (hkeyed : families.Keyed) (hf : families.get? id = some f)
    {name : String} (h : (LearnerCall.tool name).Concerns f) : id ∈ families.ofTool name := by
  rcases h with ⟨used, hused, hname⟩ | hquiz | ⟨g, hg, -⟩
  · obtain rfl : name = used := by simpa [LearnerCall.uses] using hname
    exact hkeyed.mem_ofTool.2 ⟨f, hf, hused⟩
  · simp [LearnerCall.passesQuiz] at hquiz
  · simp [LearnerCall.gate?] at hg

/-- A quiz concerns its family only. -/
theorem eq_of_quiz_concerns {family : String} {score : Binary64}
    (h : (LearnerCall.quiz family score).Concerns f) : f.id = family := by
  rcases h with ⟨used, -, hname⟩ | hquiz | ⟨g, hg, -⟩
  · simp [LearnerCall.uses] at hname
  · simp only [LearnerCall.passesQuiz, Bool.and_eq_true, beq_iff_eq] at hquiz
    exact hquiz.1.1.symm
  · simp [LearnerCall.gate?] at hg

/-- A gate concerns its family only. -/
theorem eq_of_gate_concerns {g : GateResult} (hc : c.gate? = some g) (h : c.Concerns f) :
    f.id = g.family := by
  rcases h with ⟨used, -, hname⟩ | hquiz | ⟨g', hg', hfamily, -⟩
  · simp [LearnerCall.uses_of_gate? hc] at hname
  · simp [LearnerCall.passesQuiz_of_gate? hc] at hquiz
  · rw [hc] at hg'
    rw [← hfamily, Option.some.inj hg']

/-- **A call raises the recorded tier to what is earned by then**, and never lowers it. -/
theorem HighWater.recordedTier_step (h : HighWater families profile cs t) (hkeyed : families.Keyed)
    (hf : families.get? id = some f) (hstep : FactStep t profile c t') :
    t'.recordedTier profile id = max (earnedBy (cs ++ [c]) f) (t.recordedTier profile id) := by
  obtain rfl := h.families_eq
  obtain rfl := hkeyed id f hf
  cases hstep with
  | tool =>
    obtain ⟨tools, htools⟩ := exists_notingTool t.store profile (t.families.ofTool _) _
    exact recordedTier_refreshTiers_eq_max h hkeyed hf (by rw [htools])
      (h.remembers.notingTool hkeyed _) (mem_ofTool_of_concerns hkeyed hf)
  | quiz hzero hhundred =>
    exact recordedTier_refreshTiers_eq_max h hkeyed hf rfl
      (h.remembers.notingQuiz hzero hhundred)
      fun hconcerns => List.mem_singleton.2 (eq_of_quiz_concerns hconcerns)
  | gate hc =>
    rw [Tutor.recordedTier_withReviews]
    exact recordedTier_refreshTiers_eq_max h hkeyed hf rfl (h.remembers.notingGate hc)
      fun hconcerns => List.mem_singleton.2 (eq_of_gate_concerns hc hconcerns)
  | idle huses hquiz hgate =>
    -- The tables are as before and remember the call, so what is earned is as before.
    have hsame : earnedBy (cs ++ [c]) f = earnedBy cs f := by
      rw [← (h.remembers.idle huses hquiz hgate).earnedTier_eq hkeyed hf,
        h.remembers.earnedTier_eq hkeyed hf]
    rw [Tutor.recordedTier_withReviews, hsame, max_eq_right (h.earnedBy_le hf)]

/-- **A call keeps the high-water mark.** -/
theorem HighWater.step (h : HighWater families profile cs t) (hkeyed : families.Keyed)
    (hstep : FactStep t profile c t') : HighWater families profile (cs ++ [c]) t' := by
  have hfamilies := h.families_eq
  refine ⟨?_, ?_, fun id f hf => ?_⟩
  · cases hstep <;> exact hfamilies
  · subst hfamilies
    exact h.remembers.step hkeyed hstep
  · rw [h.recordedTier_step hkeyed hf hstep, setOf_earnedSometime_concat]
    exact (h.isGreatest id f hf).insert _

theorem Store.KnowsNothingOf.highWater (h : t.store.KnowsNothingOf profile) :
    HighWater t.families profile [] t where
  families_eq := rfl
  remembers := h.remembers t.families
  isGreatest id f _ := by
    have hearned : earnedBy [] f = 1 := rfl
    have hrecorded : t.recordedTier profile id = 1 := by
      simp [Tutor.recordedTier, TierFacts.recordedTier, Store.tierFacts, h.tiers]
    rw [hrecorded]
    refine ⟨⟨[], List.prefix_rfl, hearned⟩, ?_⟩
    rintro tier ⟨earlier, hearlier, rfl⟩
    rw [List.prefix_nil.1 hearlier, hearned]

/-- **Calls keep the high-water mark.** -/
theorem highWater_calls (hkeyed : t.families.Keyed) (h : t.store.KnowsNothingOf profile)
    (cs : List LearnerCall) : HighWater t.families profile cs (t.calls profile cs) := by
  induction cs using List.reverseRecOn with
  | nil => exact h.highWater
  | append_singleton cs c ih =>
    rw [Tutor.calls_concat]
    exact ih.step hkeyed (Tutor.factStep_call _ profile c)

/-- What was earned sometime stays so when more calls are made. -/
theorem EarnedSometime.append {tier : Int} (h : EarnedSometime cs f tier)
    (more : List LearnerCall) : EarnedSometime (cs ++ more) f tier := by
  obtain ⟨earlier, hearlier, htier⟩ := h
  exact ⟨earlier, hearlier.trans (List.prefix_append cs more), htier⟩

/-- **Recorded tiers are exactly the high-water mark of the rules.** Where the families were
read and nothing was known of a profile, after any calls for the profile, for every family:

* the recorded tier is the highest that the calls had earned at some moment;
* it is the highest unlocked tier, hence no unlock is missed or granted early;
* what the calls have earned by now is what the rules make of the facts alone;
* more calls never lower the recorded tier. -/
theorem Tutor.recordedTier_isGreatest {t : Tutor} {v : Value}
    (hv : Families.ofValue v = .ok t.families) {profile : ProfileNumber}
    (hnothing : t.store.KnowsNothingOf profile) (cs : List LearnerCall) {id : String} {f : Family}
    (hf : t.families.get? id = some f) :
    IsGreatest {tier | ∃ earlier, earlier <+: cs ∧ earnedBy earlier f = tier}
      ((t.calls profile cs).recordedTier profile id) ∧
    ((t.calls profile cs).store.tierFacts profile).highestTier (t.calls profile cs).families id =
      (t.calls profile cs).recordedTier profile id ∧
    ((t.calls profile cs).store.tierFacts profile).earnedTier (t.calls profile cs).families id =
      earnedBy cs f ∧
    ∀ more, (t.calls profile cs).recordedTier profile id ≤
      (t.calls profile (cs ++ more)).recordedTier profile id := by
  have hkeyed := Families.keyed_of_ofValue hv
  have hafter := highWater_calls hkeyed hnothing cs
  refine ⟨hafter.isGreatest id f hf, hafter.highestTier_eq hkeyed hf, ?_, fun more => ?_⟩
  · rw [hafter.families_eq]
    exact hafter.remembers.earnedTier_eq hkeyed hf
  · have hearned : EarnedSometime cs f ((t.calls profile cs).recordedTier profile id) :=
      (hafter.isGreatest id f hf).1
    exact ((highWater_calls hkeyed hnothing (cs ++ more)).isGreatest id f hf).2
      (hearned.append more)

/-- A family with one tool. -/
def Family.viewer : Family where
  id := "viewer"
  name := "Viewer"
  tools := [{ name := "nvtop" }]

/-- A tutor with one family, of one tool. -/
def Tutor.viewer : Tutor where
  catalogue := .unloaded
  families := .ofList [("viewer", .viewer)]
  labs := .empty

/-- A learner who passes the gate before the quiz, and fails it after everything was opened,
keeps the third tier, though the facts are good for the second one only. -/
theorem Tutor.recordedTier_after_failed_gate :
    earnedBy [.gate "viewer" 2 "start" true, .quiz "viewer" (.ofInt 80), .tool "nvtop",
      .gate "viewer" 2 "again" false] .viewer = 2 ∧
    (Tutor.viewer.calls 1 [.gate "viewer" 2 "start" true, .quiz "viewer" (.ofInt 80),
      .tool "nvtop", .gate "viewer" 2 "again" false]).recordedTier 1 "viewer" = 3 := by
  have hread : Families.ofValue (.object [("families", .array [.object [("id", .string "viewer"),
      ("name", .string "Viewer"), ("tools", .array [.object [("name", .string "nvtop")]])]])]) =
      .ok Tutor.viewer.families := rfl
  have hnothing : Tutor.viewer.store.KnowsNothingOf 1 :=
    ⟨fun _ => rfl, fun _ => rfl, fun _ => rfl, fun _ => rfl⟩
  obtain ⟨hgreatest, -, -, -⟩ := Tutor.recordedTier_isGreatest hread hnothing
    [.gate "viewer" 2 "start" true, .quiz "viewer" (.ofInt 80), .tool "nvtop",
      .gate "viewer" 2 "again" false]
    (show Tutor.viewer.families.get? "viewer" = some .viewer by rfl)
  -- Before the last call the third tier was earned, and no tier is higher.
  refine ⟨by decide +kernel, le_antisymm ?_ (hgreatest.2 ⟨[.gate "viewer" 2 "start" true,
    .quiz "viewer" (.ofInt 80), .tool "nvtop"], by simp, by decide +kernel⟩)⟩
  obtain ⟨earlier, -, htier⟩ := hgreatest.1
  exact htier ▸ (earnedBy_bounds earlier .viewer).2

end ClusterTutor
