import ClusterTutor.Proofs.Progress.Calls

/-!
# What the store knows of a profile

The answers of the store to all questions about one profile are its view of the profile
(`ClusterTutor.Store.view`). After any calls of an empty store, it says of the facts recorded
of this profile since it was last deleted, and of nothing else
(`ClusterTutor.Store.view_run_eq_ofFacts`):

| question | what the facts under the key say |
|---|---|
| tools of a family | the set of them |
| quizzes of a family | whether one was passed, the best of zero and the scores, the number |
| tier of a family | the maximum |
| gate | the latest outcome |
| steps of a lab | for each step, by name, the maximum percentage and whether it was ever passed |
| reviews of a family | the schedule after the latest event that the calendar had a day for |
| families that are due | those of which the schedule says so, by the text of the due time |

`ClusterTutor.Proofs.Progress.Calls` has each table as a fold. What is added here is the
closed form of each fold, and the two questions that are answered with a sorted list.
-/

namespace ClusterTutor

/-! ### The best score -/

namespace Binary64

variable {x y z : Binary64}

theorem le_refl (h : x ≠ .undefined) : x.le x = true := by
  rcases le_total h h with hle | hle <;> exact hle

theorem le_trans (hxy : x.le y = true) (hyz : y.le z = true) : x.le z = true := by
  rcases x with u | _ | (_ | _) | _ <;> rcases y with v | _ | (_ | _) | _ <;>
    rcases z with w | _ | (_ | _) | _ <;> simp [le] at hxy hyz ⊢ <;> simp [units?] at * <;> omega

/-- Two numbers of which each is at most the other are equal but for the sign of a zero. -/
theorem unsignedZero_eq_of_le (hxy : x.le y = true) (hyx : y.le x = true) :
    x.unsignedZero = y.unsignedZero := by
  rcases x with u | _ | (_ | _) | _ <;> rcases y with v | _ | (_ | _) | _ <;>
    simp [le, unsignedZero] at hxy hyx ⊢ <;> simp [units?] at * <;> omega

@[simp] theorem unsignedZero_le (x y : Binary64) : x.unsignedZero.le y = x.le y := by
  rcases x with u | _ | (_ | _) | _ <;> rcases y with v | _ | (_ | _) | _ <;> rfl

@[simp] theorem le_unsignedZero (x y : Binary64) : x.le y.unsignedZero = x.le y := by
  rcases x with u | _ | (_ | _) | _ <;> rcases y with v | _ | (_ | _) | _ <;> rfl

theorem unsignedZero_ne_undefined (h : x ≠ .undefined) : x.unsignedZero ≠ .undefined := by
  cases x <;> simp [unsignedZero] at h ⊢

/-- The larger of two numbers, taken in either order, is the same but for the sign of a
zero. -/
theorem unsignedZero_max (hx : x ≠ .undefined) (hy : y ≠ .undefined)
    (hzero : y.unsignedZero = y) : (x.max y).unsignedZero = y.max x.unsignedZero := by
  have htotal := le_total hx hy
  cases hxy : x.le y with
  | false =>
    have hyx : y.le x = true := htotal.resolve_left (by simp [hxy])
    simp [Binary64.max, lt, hxy, hyx]
  | true =>
    cases hyx : y.le x with
    | false => simp [Binary64.max, lt, hxy, hyx, hzero]
    | true =>
      have heq : x.unsignedZero = y := hzero ▸ unsignedZero_eq_of_le hxy hyx
      simp [Binary64.max, lt, hxy, hyx, heq]

theorem le_max_left (hx : x ≠ .undefined) (y : Binary64) : x.le (x.max y) = true := by
  unfold Binary64.max
  split
  · rename_i hlt
    exact (Bool.and_eq_true_iff.1 hlt).1
  · exact le_refl hx

theorem le_max_right (hx : x ≠ .undefined) (hy : y ≠ .undefined) : y.le (x.max y) = true := by
  unfold Binary64.max
  split
  · exact le_refl hy
  · rename_i hlt
    rcases le_total hx hy with hxy | hyx
    · simpa [lt, hxy] using hlt
    · exact hyx

end Binary64

/-- The best of zero and some scores. -/
def bestScore (scores : List Binary64) : Binary64 :=
  (scores.map Binary64.unsignedZero).foldl Binary64.max (.finite 0)

section BestScore

variable {scores : List Binary64}

theorem bestScore_concat (scores : List Binary64) (x : Binary64) :
    bestScore (scores ++ [x]) = (bestScore scores).max x.unsignedZero := by
  simp [bestScore]

/-- **The best score is one of zero and the scores**, but for the sign of a zero. -/
theorem bestScore_mem (scores : List Binary64) :
    bestScore scores ∈ Binary64.finite 0 :: scores.map Binary64.unsignedZero := by
  induction scores using List.reverseRecOn with
  | nil => exact List.mem_cons_self
  | append_singleton scores x ih =>
    rw [bestScore_concat, Binary64.max]
    split
    · simp
    · rcases List.mem_cons.1 ih with hzero | hscore
      · exact hzero ▸ List.mem_cons_self
      · simp [List.mem_map.1 hscore]

theorem bestScore_ne_undefined (h : ∀ x ∈ scores, x ≠ .undefined) :
    bestScore scores ≠ .undefined := by
  rcases List.mem_cons.1 (bestScore_mem scores) with hzero | hscore
  · rw [hzero]
    exact Binary64.noConfusion
  · obtain ⟨x, hx, hbest⟩ := List.mem_map.1 hscore
    exact hbest ▸ Binary64.unsignedZero_ne_undefined (h x hx)

theorem unsignedZero_bestScore (scores : List Binary64) :
    (bestScore scores).unsignedZero = bestScore scores := by
  rcases List.mem_cons.1 (bestScore_mem scores) with hzero | hscore
  · rw [hzero]
    rfl
  · obtain ⟨x, -, hbest⟩ := List.mem_map.1 hscore
    rw [← hbest]
    cases x <;> rfl

/-- **The best score is at least zero and every score.** -/
theorem le_bestScore (h : ∀ x ∈ scores, x ≠ .undefined) :
    ∀ x ∈ Binary64.finite 0 :: scores, x.le (bestScore scores) = true := by
  induction scores using List.reverseRecOn with
  | nil =>
    intro x hx
    rw [List.mem_singleton.1 hx]
    rfl
  | append_singleton scores y ih =>
    have hscores : ∀ x ∈ scores, x ≠ .undefined := fun x hx => h x (List.mem_append_left _ hx)
    have hbest := bestScore_ne_undefined hscores
    have hy : y.unsignedZero ≠ .undefined :=
      Binary64.unsignedZero_ne_undefined (h y (by simp))
    intro x hx
    rw [bestScore_concat]
    rw [← List.cons_append, List.mem_append, List.mem_singleton] at hx
    rcases hx with hx | rfl
    · exact Binary64.le_trans (ih hscores x hx) (Binary64.le_max_left hbest _)
    · simpa using Binary64.le_max_right hbest hy

end BestScore

/-! ### Closed forms -/

/-- The set of some tools, if there are any. -/
def usedTools (names : List String) : Option NameSet :=
  if names.isEmpty then none else some (.ofList names)

theorem foldEvents_mergeTool (names : List String) :
    foldEvents mergeTool names = usedTools names := by
  induction names using List.reverseRecOn with
  | nil => rfl
  | append_singleton names name ih =>
    rw [foldEvents_concat, ih]
    cases names <;> simp [mergeTool, usedTools, NameSet.ofList]

/-- What is kept of some quizzes, if there are any. -/
def quizSummary (quizzes : List (Bool × Binary64)) : Option QuizResult :=
  if quizzes.isEmpty then none
  else some ⟨quizzes.any Prod.fst, bestScore (quizzes.map Prod.snd), quizzes.length⟩

theorem foldEvents_mergeQuiz {quizzes : List (Bool × Binary64)}
    (h : ∀ q ∈ quizzes, q.2 ≠ .undefined) : foldEvents mergeQuiz quizzes = quizSummary quizzes := by
  induction quizzes using List.reverseRecOn with
  | nil => rfl
  | append_singleton quizzes q ih =>
    have hquizzes : ∀ q ∈ quizzes, q.2 ≠ .undefined := fun q hq => h q (List.mem_append_left _ hq)
    have hscores : ∀ x ∈ quizzes.map Prod.snd, x ≠ .undefined := by
      intro x hx
      obtain ⟨q, hq, rfl⟩ := List.mem_map.1 hx
      exact hquizzes q hq
    have hbest : (q.2.max (bestScore (quizzes.map Prod.snd))).unsignedZero =
        bestScore ((quizzes ++ [q]).map Prod.snd) := by
      rw [List.map_append, List.map_singleton, bestScore_concat]
      exact Binary64.unsignedZero_max (h q (by simp)) (bestScore_ne_undefined hscores)
        (unsignedZero_bestScore _)
    have hold : ((quizSummary quizzes).map QuizResult.score).getD (.finite 0) =
        bestScore (quizzes.map Prod.snd) := by
      cases quizzes <;> rfl
    rw [foldEvents_concat, ih hquizzes, mergeQuiz, Store.addQuiz, hold]
    simp only [hbest]
    cases quizzes <;> simp [quizSummary, Bool.or_comm, Bool.or_left_comm]

theorem max?_concat (xs : List Int) (x : Int) :
    (xs ++ [x]).max? = some (xs.max?.elim x fun best => max best x) := by
  cases xs with
  | nil => rfl
  | cons y ys => simp only [List.cons_append, List.max?_cons', List.foldl_concat, Option.elim_some]

theorem foldEvents_mergeTier (tiers : List Int) : foldEvents mergeTier tiers = tiers.max? := by
  induction tiers using List.reverseRecOn with
  | nil => rfl
  | append_singleton tiers n ih => simp [foldEvents_concat, ih, mergeTier, max?_concat]

theorem foldEvents_mergeGate (results : List GateResult) :
    foldEvents mergeGate results = results.getLast? := by
  induction results using List.reverseRecOn with
  | nil => rfl
  | append_singleton results r ih => simp [foldEvents_concat, mergeGate]

/-- The maximum percentage among some results of a step, with whether one is a pass, if there
are any. -/
def bestResult (results : List StepResult) : Option StepResult :=
  (results.map StepResult.percentage).max?.map fun best =>
    ⟨best, results.any StepResult.passed⟩

theorem foldEvents_mergeStep (results : List StepResult) :
    foldEvents mergeStep results = bestResult results := by
  induction results using List.reverseRecOn with
  | nil => rfl
  | append_singleton results r ih =>
    have hbest := max?_concat (results.map StepResult.percentage) r.percentage
    rw [foldEvents_concat, ih]
    cases hmax : (results.map StepResult.percentage).max? with
    | none =>
      have hnil : results = [] := by simpa using hmax
      subst hnil
      simp [mergeStep, bestResult]
    | some best =>
      rw [hmax] at hbest
      simp [mergeStep, bestResult, hmax, hbest]

/-! ### Sorted answers -/

/-- Items that are found under the text that a key gives them, sorted by it, are those found
under the names of any set with all these texts. -/
theorem sortedBy_eq_filterMap {α : Type} {key : α → String} {xs : List α} {names : NameSet}
    {find : String → Option α} (hnodup : xs.Nodup) (hmem : ∀ x, x ∈ xs ↔ find (key x) = some x)
    (hkey : ∀ name x, find name = some x → key x = name)
    (hnames : ∀ name x, find name = some x → name ∈ names) :
    Text.sortedBy key xs = names.toList.filterMap find := by
  have hincreasing : (names.toList.filterMap find).Pairwise fun x y => key x < key y := by
    refine names.increasing.filterMap find fun name name' hlt x hx y hy => ?_
    rw [hkey name x hx, hkey name' y hy]
    exact hlt
  have hnodup' : (names.toList.filterMap find).Nodup := by
    refine hincreasing.imp fun {x y} hlt heq => ?_
    rw [heq] at hlt
    exact String.lt_irrefl _ hlt
  -- Both lists have the same items, each of them once, and only one order increases.
  refine Text.sortedBy_eq_of_perm ?_ hincreasing
  refine (List.perm_ext_iff_of_nodup hnodup hnodup').2 fun x => ?_
  rw [hmem, List.mem_filterMap]
  constructor
  · intro hx
    exact ⟨key x, hnames _ _ hx, hx⟩
  · rintro ⟨name, -, hx⟩
    rw [hkey name x hx]
    exact hx

theorem nodup_toList {κ α : Type} (m : OrderedMap κ α) : m.toList.Nodup :=
  List.Nodup.of_map Prod.fst m.nodup

/-! ### The view of a profile -/

/-- The answers to all questions about a profile. -/
@[ext]
structure ProfileView where
  /-- The tools used of a family. -/
  tools : String → Option NameSet
  /-- The quizzes of a family. -/
  quizzes : String → Option QuizResult
  /-- The unlocked tier of a family. -/
  tiers : String → Option Int
  /-- An explanation gate. -/
  gates : String → Option GateResult
  /-- The results of the steps of a lab. -/
  steps : String → List (String × StepResult)
  /-- The review schedule of a family. -/
  schedules : String → Option ReviewSchedule
  /-- The families that are due at a moment. -/
  due : Instant → List String

/-- The view of a profile of which nothing is known. -/
def ProfileView.empty : ProfileView where
  tools _ := none
  quizzes _ := none
  tiers _ := none
  gates _ := none
  steps _ := []
  schedules _ := none
  due _ := []

namespace Fact

/-- The name of the step of a lab that a fact is about. -/
def stepOf (lab : String) : Fact → Option String
  | .step lab' name _ => if lab' = lab then some name else none
  | _ => none

/-- The family of which a fact is about the reviews. -/
def reviewedFamily : Fact → Option String
  | .review family _ => some family
  | _ => none

theorem mem_filterMap_stepOf {fs : List Fact} {lab step : String} {r : StepResult}
    (h : bestResult (fs.filterMap (resultOf (lab, step))) = some r) :
    step ∈ fs.filterMap (stepOf lab) := by
  have hne : fs.filterMap (resultOf (lab, step)) ≠ [] := by
    intro hnil
    simp [hnil, bestResult] at h
  obtain ⟨result, hresult⟩ := List.exists_mem_of_ne_nil _ hne
  obtain ⟨fact, hfact, hof⟩ := List.mem_filterMap.1 hresult
  refine List.mem_filterMap.2 ⟨fact, hfact, ?_⟩
  cases fact with
  | step lab' name result' =>
    obtain ⟨hkey, -⟩ := Option.ite_none_right_eq_some.1 hof
    obtain ⟨rfl, rfl⟩ := Prod.ext_iff.1 hkey
    simp [stepOf]
  | _ => cases hof

theorem score_ne_undefined {fs : List Fact} (hfits : ∀ fact ∈ fs, fact.fits = true)
    {family : String} {q : Bool × Binary64} (hq : q ∈ fs.filterMap (quizOf family)) :
    q.2 ≠ .undefined := by
  obtain ⟨fact, hfact, hof⟩ := List.mem_filterMap.1 hq
  have hfit := hfits fact hfact
  cases fact with
  | quiz family' passed score =>
    obtain ⟨-, hq⟩ := Option.ite_none_right_eq_some.1 hof
    rw [← Option.some.inj hq]
    simpa [fits] using hfit
  | _ => cases hof

end Fact

/-- The results of the steps of a lab that some facts leave, in the order of the names of the
steps. -/
def stepsSummary (fs : List Fact) (lab : String) : List (String × StepResult) :=
  (NameSet.ofList (fs.filterMap (Fact.stepOf lab))).toList.filterMap fun step =>
    (bestResult (fs.filterMap (Fact.resultOf (lab, step)))).map (step, ·)

/-- The review schedule of a family that some facts leave. -/
def scheduleAfter (fs : List Fact) (family : String) : Option ReviewSchedule :=
  foldEvents (mergeReview family) (fs.filterMap (Fact.reviewOf family))

/-- The families that are due at a moment after some facts, in the order of the texts of
their due times, and then in the order of their names. -/
def dueAfter (fs : List Fact) (moment : Instant) : List String :=
  let schedules := (NameSet.ofList (fs.filterMap Fact.reviewedFamily)).toList.filterMap
    (scheduleAfter fs)
  ((Text.sortedBy (fun r => r.dueAt.text) schedules).filter fun r => r.dueAt.le moment).map
    ReviewSchedule.family

/-- **What facts say of a profile**, by question. -/
def ProfileView.ofFacts (fs : List Fact) : ProfileView where
  tools family := usedTools (fs.filterMap (Fact.toolOf family))
  quizzes family := quizSummary (fs.filterMap (Fact.quizOf family))
  tiers family := (fs.filterMap (Fact.tierOf family)).max?
  gates name := (fs.filterMap (Fact.gateOf name)).getLast?
  steps := stepsSummary fs
  schedules := scheduleAfter fs
  due := dueAfter fs

@[simp] theorem ProfileView.ofFacts_nil : ofFacts [] = empty := by
  have hdue : ∀ moment, dueAfter [] moment = [] := by
    intro moment
    simp [dueAfter, NameSet.ofList, NameSet.empty, Text.sortedBy]
  rw [ofFacts, funext hdue]
  rfl

theorem family_of_mergeReview {family : String} {events : List ReviewEvent} {r : ReviewSchedule}
    (h : foldEvents (mergeReview family) events = some r) : r.family = family := by
  induction events using List.reverseRecOn generalizing r with
  | nil => cases h
  | append_singleton events event ih =>
    rw [foldEvents_concat, Option.or_eq_some_iff] at h
    rcases h with hmerge | ⟨-, hold⟩
    · obtain ⟨dueAt, -, rfl⟩ := Option.map_eq_some_iff.1 hmerge
      rfl
    · exact ih hold

theorem Fact.mem_filterMap_reviewedFamily {fs : List Fact} {family : String} {r : ReviewSchedule}
    (h : scheduleAfter fs family = some r) : family ∈ fs.filterMap reviewedFamily := by
  have hne : fs.filterMap (reviewOf family) ≠ [] := by
    intro hnil
    simp [scheduleAfter, hnil] at h
  obtain ⟨event, hevent⟩ := List.exists_mem_of_ne_nil _ hne
  obtain ⟨fact, hfact, hof⟩ := List.mem_filterMap.1 hevent
  refine List.mem_filterMap.2 ⟨fact, hfact, ?_⟩
  cases fact with
  | review family' event' =>
    obtain ⟨rfl, -⟩ := Option.ite_none_right_eq_some.1 hof
    rfl
  | _ => cases hof

namespace Store

/-- **The view of a profile**: the answers of the store to all questions about it. -/
def view (s : Store) (profile : ProfileNumber) : ProfileView where
  tools family := (s.tierFacts profile).toolsUsed.get? family
  quizzes family := (s.tierFacts profile).quizzes.get? family
  tiers family := (s.tierFacts profile).unlockedTiers.get? family
  gates name := (s.tierFacts profile).gates.get? name
  steps := s.stepResults profile
  schedules := s.schedule? profile
  due := s.dueReviews profile

variable {s : Store} {facts : ProfileNumber → List Fact}

theorem Summarizes.stepResults_eq (h : s.Summarizes facts) (profile : ProfileNumber)
    (lab : String) :
    s.stepResults profile lab = stepsSummary (facts profile) lab := by
  have hget : ∀ step, (Table.ofProfile s.steps profile).get? (lab, step) =
      bestResult ((facts profile).filterMap (Fact.resultOf (lab, step))) := by
    intro step
    rw [Table.get?_ofProfile, h.steps, foldEvents_mergeStep]
  refine sortedBy_eq_filterMap ?_ ?_ ?_ ?_
  · -- Two rows of a lab have different steps.
    refine ((nodup_toList _).filter _).map_on ?_
    rintro ⟨⟨lab₁, step₁⟩, r₁⟩ h₁ ⟨⟨lab₂, step₂⟩, r₂⟩ h₂ heq
    simp_all
  · rintro ⟨step, r⟩
    simp only [← hget, List.mem_map, List.mem_filter, Option.map_eq_some_iff]
    constructor
    · rintro ⟨⟨⟨lab', step'⟩, r'⟩, ⟨hmem, hlab⟩, heq⟩
      obtain ⟨rfl, rfl⟩ := Prod.ext_iff.1 heq
      have hlab' : lab' = lab := by simpa using hlab
      subst hlab'
      exact ⟨r', (OrderedMap.mem_toList_iff _ _ _).1 hmem, rfl⟩
    · rintro ⟨r', hr, heq⟩
      obtain ⟨-, rfl⟩ := Prod.ext_iff.1 heq
      exact ⟨((lab, step), r'), ⟨(OrderedMap.mem_toList_iff _ _ _).2 hr, by simp⟩, rfl⟩
  · intro step x hx
    obtain ⟨r, -, rfl⟩ := Option.map_eq_some_iff.1 hx
    rfl
  · intro step x hx
    obtain ⟨r, hr, -⟩ := Option.map_eq_some_iff.1 hx
    exact (NameSet.mem_ofList _ _).2 (Fact.mem_filterMap_stepOf hr)

theorem Summarizes.schedule?_eq (h : s.Summarizes facts) (profile : ProfileNumber)
    (family : String) :
    s.schedule? profile family = scheduleAfter (facts profile) family :=
  h.reviews profile family

theorem Summarizes.dueReviews_eq (h : s.Summarizes facts) (profile : ProfileNumber)
    (moment : Instant) :
    s.dueReviews profile moment = dueAfter (facts profile) moment := by
  have hget : ∀ family, (Table.ofProfile s.reviews profile).get? family =
      scheduleAfter (facts profile) family := by
    intro family
    rw [Table.get?_ofProfile]
    exact h.reviews profile family
  have hfamily : ∀ family r, scheduleAfter (facts profile) family = some r → r.family = family :=
    fun family r hr => family_of_mergeReview hr
  have hrows : Text.sortedBy ReviewSchedule.family (Table.ofProfile s.reviews profile).values =
      (NameSet.ofList ((facts profile).filterMap Fact.reviewedFamily)).toList.filterMap
        (scheduleAfter (facts profile)) := by
    refine sortedBy_eq_filterMap ?_ ?_ hfamily fun family r hr =>
      (NameSet.mem_ofList _ _).2 (Fact.mem_filterMap_reviewedFamily hr)
    · -- Two rows have different families, and so have their schedules.
      refine (nodup_toList _).map_on ?_
      rintro ⟨family₁, r₁⟩ h₁ ⟨family₂, r₂⟩ h₂ rfl
      rw [OrderedMap.mem_toList_iff, hget] at h₁ h₂
      rw [← hfamily _ _ h₁, ← hfamily _ _ h₂]
    · intro r
      simp only [OrderedMap.values, List.mem_map]
      constructor
      · rintro ⟨⟨family, r'⟩, hmem, rfl⟩
        rw [OrderedMap.mem_toList_iff, hget] at hmem
        rw [hfamily _ _ hmem, hmem]
      · intro hr
        refine ⟨(r.family, r), ?_, rfl⟩
        rw [OrderedMap.mem_toList_iff, hget]
        exact hr
  rw [dueReviews, hrows, dueAfter]

/-- A store that summarizes facts of which none has an undefined score answers by them. -/
theorem Summarizes.view_eq (h : s.Summarizes facts) {profile : ProfileNumber}
    (hfits : ∀ fact ∈ facts profile, fact.fits = true) :
    s.view profile = .ofFacts (facts profile) := by
  ext1
  · funext family
    simp only [view, tierFacts, Table.get?_ofProfile, h.tools _ _, foldEvents_mergeTool,
      ProfileView.ofFacts]
  · funext family
    have hscores : ∀ q ∈ (facts profile).filterMap (Fact.quizOf family), q.2 ≠ .undefined :=
      fun _ => Fact.score_ne_undefined hfits
    simp only [view, tierFacts, Table.get?_ofProfile, h.quizzes _ _, foldEvents_mergeQuiz hscores,
      ProfileView.ofFacts]
  · funext family
    simp only [view, tierFacts, Table.get?_ofProfile, h.tiers _ _, foldEvents_mergeTier,
      ProfileView.ofFacts]
  · funext name
    simp only [view, tierFacts, Table.get?_ofProfile, h.gates _ _, foldEvents_mergeGate,
      ProfileView.ofFacts]
  · funext lab
    exact h.stepResults_eq profile lab
  · funext family
    exact h.schedule?_eq profile family
  · funext moment
    exact h.dueReviews_eq profile moment

end Store

theorem StoreCall.fits_of_mem_factsOf {profile : ProfileNumber} {cs : List StoreCall}
    {fact : Fact} (h : fact ∈ factsOf profile cs) : fact.fits = true := by
  obtain ⟨c, -, hc⟩ := List.mem_filterMap.1 h
  cases c with
  | create name => cases hc
  | delete p => cases hc
  | record p fact' =>
    obtain ⟨⟨-, hfits⟩, hfact⟩ := Option.ite_none_right_eq_some.1 hc
    rw [← Option.some.inj hfact]
    exact hfits

/-- Of facts that fit, the score kept of a family is the best of zero and the scores. -/
theorem score_of_quizSummary {fs : List Fact} (hfits : ∀ fact ∈ fs, fact.fits = true)
    {family : String} {r : QuizResult}
    (h : quizSummary (fs.filterMap (Fact.quizOf family)) = some r) :
    r.score ∈ Binary64.finite 0 ::
        ((fs.filterMap (Fact.quizOf family)).map Prod.snd).map Binary64.unsignedZero ∧
      ∀ x ∈ Binary64.finite 0 :: (fs.filterMap (Fact.quizOf family)).map Prod.snd,
        x.le r.score = true := by
  obtain ⟨-, hr⟩ := Option.ite_none_left_eq_some.1 h
  rw [← Option.some.inj hr]
  refine ⟨bestScore_mem _, le_bestScore fun x hx => ?_⟩
  obtain ⟨q, hq, rfl⟩ := List.mem_map.1 hx
  exact Fact.score_ne_undefined hfits hq

namespace Store

theorem view_run (cs : List StoreCall) (profile : ProfileNumber) :
    (run {} cs).view profile = .ofFacts (StoreCall.factsOf profile cs) :=
  (summarizes_run cs).view_eq fun _ => StoreCall.fits_of_mem_factsOf

/-- **The store is a fold for each key.** After any calls of an empty store, all that it
answers about a profile is what the facts say that were recorded of it since it was last
deleted. The score kept of a family is one of zero and the scores, and at least each of them.
After a deletion nothing is known of the profile, and the same as before of every other. -/
theorem view_run_eq_ofFacts (cs : List StoreCall) (profile : ProfileNumber) :
    (run {} cs).view profile = .ofFacts (StoreCall.factsOf profile cs) ∧
    (∀ family r, ((run {} cs).view profile).quizzes family = some r →
      let scores := ((StoreCall.factsOf profile cs).filterMap (Fact.quizOf family)).map Prod.snd
      r.score ∈ Binary64.finite 0 :: scores.map Binary64.unsignedZero ∧
        ∀ x ∈ Binary64.finite 0 :: scores, x.le r.score = true) ∧
    (run {} (cs ++ [.delete profile])).view profile = .empty ∧
    ∀ other, other ≠ profile →
      (run {} (cs ++ [.delete profile])).view other = (run {} cs).view other := by
  refine ⟨view_run cs profile, fun family r hr => ?_, ?_, fun other hother => ?_⟩
  · rw [view_run] at hr
    exact score_of_quizSummary (fun _ => StoreCall.fits_of_mem_factsOf) hr
  · simp [view_run, StoreCall.factsOf_concat, StoreCall.deletes]
  · simp [view_run, StoreCall.factsOf_concat, StoreCall.deletes, StoreCall.factOf?, hother.symm]

end Store

end ClusterTutor
