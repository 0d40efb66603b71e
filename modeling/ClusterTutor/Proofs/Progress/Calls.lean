import ClusterTutor.Progress.Store
import Mathlib

/-!
# Calls of the progress store

A call of the store creates a profile, deletes one, or records a fact of one
(`ClusterTutor.StoreCall`). A fact goes into one table, under one key, and what stands there
afterwards depends on what stood there before and on the fact alone: each table is a fold of
its own, with a way of its own to merge a fact into an entry.

| fact | table | key | merged into an entry by |
|---|---|---|---|
| a tool | tools | family | adding it to the set |
| a quiz | quizzes | family | `ClusterTutor.mergeQuiz` |
| a tier | tiers | family | the higher one |
| a gate | gates | name | putting it in its place |
| a step | steps | lab and step | the better one |
| a review | reviews | family | `ClusterTutor.mergeReview` |

After any calls, the entry of a profile under a key is the fold of the facts of that profile
under that key since the profile was last deleted (`ClusterTutor.Store.summarizes_run`). The
argument has one step for a table that a fact goes into, one for a table that it does not,
and one for a deletion; which of them applies to which table is all that differs from fact
to fact.
-/

namespace ClusterTutor

/-! ### Facts and calls -/

/-- What happens to the reviews of a family. -/
inductive ReviewEvent where
  /-- They are started, or started again. -/
  | started (now : Instant)
  /-- There was one. -/
  | reviewed (now : Instant) (success : Bool)
deriving DecidableEq

/-- What is recorded of a learner. -/
inductive Fact where
  /-- A tool of a family was used. -/
  | tool (family name : String)
  /-- A quiz of a family was taken. -/
  | quiz (family : String) (passed : Bool) (score : Binary64)
  /-- A tier of a family was unlocked. -/
  | tier (family : String) (number : Int)
  /-- An explanation gate was tried. -/
  | gate (name : String) (result : GateResult)
  /-- A step of a lab was scored. -/
  | step (lab name : String) (result : StepResult)
  /-- A family was put on the review schedule, or reviewed. -/
  | review (family : String) (event : ReviewEvent)
deriving DecidableEq

/-- A call of the store. The number in a call may be one that no profile has, and one that the
store cannot hold. -/
inductive StoreCall where
  /-- Create a profile. -/
  | create (name : String)
  /-- Delete the profile with a number. -/
  | delete (n : Int)
  /-- Record a fact of the profile with a number. -/
  | record (n : Int) (fact : Fact)
deriving DecidableEq

/-- What the store answers to a call. -/
inductive StoreAnswer where
  /-- A profile was created. -/
  | created (profile : Profile)
  /-- A profile was deleted, if there was one. -/
  | deleted (found : Bool)
  /-- A fact was recorded. -/
  | recorded
  /-- Nothing was done. -/
  | refused (fault : StoreFault)
deriving DecidableEq

namespace Store

/-- Records a fact of a profile. -/
def note (s : Store) (profile : ProfileNumber) : Fact → Except StoreFault Store
  | .tool family name => .ok (s.markToolUsed profile family name)
  | .quiz family passed score => (s.recordQuiz profile family passed score).map Prod.fst
  | .tier family n => (s.recordTier profile family n).map Prod.fst
  | .gate name result => s.recordGate profile name result
  | .step lab name result => s.recordStep profile lab name result
  | .review family (.started now) => (s.scheduleReview now profile family).map Prod.fst
  | .review family (.reviewed now success) =>
    (s.recordReview now profile family success).map Prod.fst

/-- The store after a call, with its answer. A call that is refused changes nothing. -/
def call (s : Store) : StoreCall → Store × StoreAnswer
  | .create name =>
    match s.createProfile name with
    | .ok (s', p) => (s', .created p)
    | .error fault => (s, .refused fault)
  | .delete n =>
    match ProfileNumber.ofInt n with
    | .ok profile => ((s.deleteProfile profile).1, .deleted (s.deleteProfile profile).2)
    | .error fault => (s, .refused fault)
  | .record n fact =>
    match ProfileNumber.ofInt n with
    | .ok profile =>
      match s.note profile fact with
      | .ok s' => (s', .recorded)
      | .error fault => (s, .refused fault)
    | .error fault => (s, .refused fault)

/-- The store after several calls. -/
def run (s : Store) (cs : List StoreCall) : Store :=
  cs.foldl (fun s c => (s.call c).1) s

@[simp] theorem run_nil (s : Store) : s.run [] = s := rfl

theorem run_concat (s : Store) (cs : List StoreCall) (c : StoreCall) :
    s.run (cs ++ [c]) = ((s.run cs).call c).1 := by
  simp [run]

end Store

/-! ### The facts of a profile -/

/-- Whether the store can hold the numbers of a fact. -/
def Fact.fits : Fact → Bool
  | .quiz _ _ score => decide (score ≠ .undefined)
  | .tier _ n => fitsStore n
  | .gate _ result => fitsStore result.tier
  | .step _ _ result => fitsStore result.percentage
  | _ => true

namespace StoreCall

/-- Whether a call deletes a profile. -/
def deletes (profile : ProfileNumber) : StoreCall → Bool
  | .delete n => n == profile.toInt
  | _ => false

/-- The fact that a call records of a profile, if the store can hold it. -/
def factOf? (profile : ProfileNumber) : StoreCall → Option Fact
  | .record n fact => if n = profile.toInt ∧ fact.fits = true then some fact else none
  | _ => none

/-- The calls since a profile was last deleted. -/
def sinceDeleted (profile : ProfileNumber) (cs : List StoreCall) : List StoreCall :=
  (cs.reverse.takeWhile fun c => !c.deletes profile).reverse

/-- **The facts of a profile**: what was recorded of it since it was last deleted. -/
def factsOf (profile : ProfileNumber) (cs : List StoreCall) : List Fact :=
  (sinceDeleted profile cs).filterMap (factOf? profile)

@[simp] theorem factsOf_nil (profile : ProfileNumber) : factsOf profile [] = [] := rfl

/-- A deletion makes the facts of a profile forgotten, and any other call adds to them. -/
theorem factsOf_concat (profile : ProfileNumber) (cs : List StoreCall) (c : StoreCall) :
    factsOf profile (cs ++ [c]) =
      if c.deletes profile then [] else factsOf profile cs ++ (c.factOf? profile).toList := by
  cases hc : c.deletes profile with
  | true => simp [factsOf, sinceDeleted, hc]
  | false =>
    cases hf : c.factOf? profile <;> simp [factsOf, sinceDeleted, hc, hf]

end StoreCall

/-! ### Folds -/

/-- What is left of events that are merged one after the other into what stands there; an
event that cannot be merged leaves it as it is. -/
def foldEvents {α β : Type} (merge : Option α → β → Option α) (es : List β) : Option α :=
  es.foldl (fun old e => (merge old e).or old) none

section Folds

variable {α β κ : Type} {merge : Option α → β → Option α}

@[simp] theorem foldEvents_nil : foldEvents merge [] = none := rfl

theorem foldEvents_concat (es : List β) (e : β) :
    foldEvents merge (es ++ [e]) = (merge (foldEvents merge es) e).or (foldEvents merge es) := by
  simp [foldEvents]

namespace Table

variable [DecidableEq κ] {merges : κ → Option α → β → Option α} {pick : κ → Fact → Option β}
  {t : Table κ α} {facts : ProfileNumber → List Fact} {profile : ProfileNumber}

/-- A table with an event merged into the entry of a profile under a key. -/
def noting (merge : Option α → β → Option α) (t : Table κ α) (profile : ProfileNumber) (k : κ)
    (e : β) : Table κ α :=
  (merge (t.get? (profile, k)) e).elim t (t.insert (profile, k))

theorem get?_noting (t : Table κ α) (profile p : ProfileNumber) (k k' : κ) (e : β) :
    (noting merge t profile k e).get? (p, k') =
      if profile = p ∧ k = k' then (merge (t.get? (p, k')) e).or (t.get? (p, k'))
      else t.get? (p, k') := by
  unfold noting
  by_cases hk : profile = p ∧ k = k'
  · obtain ⟨rfl, rfl⟩ := hk
    cases merge (t.get? (profile, k)) e <;> simp
  · cases merge (t.get? (profile, k)) e with
    | none => simp [hk]
    | some v => simp [hk]

/-- **A table is a fold for each key**: the entry of a profile under a key is what is left of
the facts of the profile that go under that key, where `pick` says which these are and
`merges` how they are merged. -/
def Folds (merges : κ → Option α → β → Option α) (pick : κ → Fact → Option β) (t : Table κ α)
    (facts : ProfileNumber → List Fact) : Prop :=
  ∀ p k, t.get? (p, k) = foldEvents (merges k) ((facts p).filterMap (pick k))

/-- A fact that goes into the table, noted there. -/
theorem Folds.noting (h : Folds merges pick t facts) {fact : Fact} {k : κ} {e : β}
    (hpick : ∀ k', pick k' fact = if k = k' then some e else none) :
    Folds merges pick (Table.noting (merges k) t profile k e)
      (Function.update facts profile (facts profile ++ [fact])) := by
  intro p k'
  rw [get?_noting, h]
  by_cases hp : profile = p
  · subst hp
    by_cases hk : k = k'
    · subst hk
      simp [hpick, foldEvents_concat]
    · simp [hpick, hk]
  · simp [Function.update_of_ne (Ne.symm hp), hp]

/-- A fact that does not go into the table leaves it alone. -/
theorem Folds.passing (h : Folds merges pick t facts) {fact : Fact}
    (hpick : ∀ k, pick k fact = none) :
    Folds merges pick t (Function.update facts profile (facts profile ++ [fact])) := by
  intro p k
  rw [h]
  by_cases hp : profile = p
  · subst hp
    simp [hpick]
  · simp [Function.update_of_ne (Ne.symm hp)]

/-- A deletion removes what the facts of a profile have left. -/
theorem Folds.deleteProfile (h : Folds merges pick t facts) :
    Folds merges pick (Table.deleteProfile t profile) (Function.update facts profile []) := by
  intro p k
  rw [get?_deleteProfile, h]
  by_cases hp : p = profile
  · subst hp
    simp
  · simp [hp]

end Table

end Folds

/-! ### How facts are merged -/

/-- The tools of a family with one more. -/
def mergeTool (old : Option NameSet) (name : String) : Option NameSet :=
  some ((old.getD .empty).insert name)

/-- The quizzes of a family with one more, which was a pass or not and has a score. -/
def mergeQuiz (old : Option QuizResult) (quiz : Bool × Binary64) : Option QuizResult :=
  let r := Store.addQuiz old quiz.1 quiz.2
  some { r with score := r.score.unsignedZero }

/-- The higher one of two tiers of a family. -/
def mergeTier (old : Option Int) (tier : Int) : Option Int :=
  some (old.elim tier fun old => max old tier)

/-- The latest outcome of a gate. -/
def mergeGate (_ : Option GateResult) (result : GateResult) : Option GateResult :=
  some result

/-- The better one of two results of a step. -/
def mergeStep (old : Option StepResult) (result : StepResult) : Option StepResult :=
  some (old.elim result fun old =>
    ⟨max old.percentage result.percentage, old.passed || result.passed⟩)

/-- When an event took place. -/
def ReviewEvent.now : ReviewEvent → Instant
  | .started now => now
  | .reviewed now _ => now

/-- The interval and the successes in a row after an event. -/
def ReviewEvent.next (old : Option ReviewSchedule) : ReviewEvent → Nat × Nat
  | .started _ => (initialReviewInterval, 0)
  | .reviewed _ success => Store.nextInterval old success

/-- The schedule of a family after an event, if the calendar has the day. -/
def mergeReview (family : String) (old : Option ReviewSchedule) (event : ReviewEvent) :
    Option ReviewSchedule :=
  (event.now.addDays? (event.next old).1).map fun dueAt =>
    ⟨family, dueAt, (event.next old).1, (event.next old).2⟩

namespace Fact

/-- The tool of a family that a fact is about. -/
def toolOf (family : String) : Fact → Option String
  | .tool f name => if f = family then some name else none
  | _ => none

/-- The quiz of a family that a fact is about. -/
def quizOf (family : String) : Fact → Option (Bool × Binary64)
  | .quiz f passed score => if f = family then some (passed, score) else none
  | _ => none

/-- The tier of a family that a fact is about. -/
def tierOf (family : String) : Fact → Option Int
  | .tier f n => if f = family then some n else none
  | _ => none

/-- The outcome of a gate that a fact is about. -/
def gateOf (name : String) : Fact → Option GateResult
  | .gate name' result => if name' = name then some result else none
  | _ => none

/-- The result of a step of a lab that a fact is about. -/
def resultOf (key : String × String) : Fact → Option StepResult
  | .step lab name result => if (lab, name) = key then some result else none
  | _ => none

/-- The event in the reviews of a family that a fact is about. -/
def reviewOf (family : String) : Fact → Option ReviewEvent
  | .review f event => if f = family then some event else none
  | _ => none

end Fact

/-! ### What a fact does to the tables -/

namespace Store

variable {s : Store} {profile : ProfileNumber} {facts : ProfileNumber → List Fact}

theorem recordQuiz_eq (s : Store) (profile : ProfileNumber) (family : String) (passed : Bool)
    {score : Binary64} (h : score ≠ .undefined) :
    (s.recordQuiz profile family passed score).map Prod.fst =
      .ok { s with quizzes :=
        Table.noting mergeQuiz s.quizzes profile family (passed, score) } := by
  have hdefined : ∀ old : Binary64, score.max old ≠ .undefined := by
    intro old
    unfold Binary64.max
    split
    · rename_i hlt
      rintro rfl
      cases score <;> simp [Binary64.lt, Binary64.le] at hlt
    · exact h
  simp [recordQuiz, addQuiz, hdefined, Except.map, Table.noting, mergeQuiz]

theorem putOff_eq (s : Store) (now : Instant) (profile : ProfileNumber) (family : String)
    (days : Nat) (successes : Nat) :
    (s.putOff now profile family days successes).map Prod.fst =
      match now.addDays? days with
      | none => .error .afterCalendar
      | some dueAt => .ok { s with
          reviews := s.reviews.insert (profile, family) ⟨family, dueAt, days, successes⟩ } := by
  cases hday : now.addDays? days <;> simp [putOff, hday, Except.map]

theorem note_review (s : Store) (profile : ProfileNumber) (family : String)
    (event : ReviewEvent) :
    s.note profile (.review family event) =
      (s.putOff event.now profile family (event.next (s.schedule? profile family)).1
        (event.next (s.schedule? profile family)).2).map Prod.fst := by
  cases event <;> rfl

/-- A call for a number that the store cannot hold is refused. -/
theorem call_of_ofInt?_eq_none {n : Int} (h : ProfileNumber.ofInt? n = none) (s : Store) :
    s.call (.delete n) = (s, .refused .numberTooLarge) ∧
    ∀ fact, s.call (.record n fact) = (s, .refused .numberTooLarge) := by
  simp [call, ProfileNumber.ofInt, h]

/-- The store after a profile was deleted. -/
theorem call_delete (s : Store) (profile : ProfileNumber) :
    s.call (.delete profile) =
      ((s.deleteProfile profile).1, .deleted (s.deleteProfile profile).2) := by
  simp [call, ProfileNumber.ofInt]

/-- The store after a fact was recorded, or refused. -/
theorem call_record (s : Store) (profile : ProfileNumber) (fact : Fact) :
    (s.call (.record profile fact)).1 = (s.note profile fact).toOption.getD s := by
  simp only [call, ProfileNumber.ofInt, ProfileNumber.ofInt?_toInt]
  cases s.note profile fact <;> rfl

/-- A fact that the store cannot hold is refused. -/
theorem note_of_not_fits {fact : Fact} (h : fact.fits = false) :
    (s.note profile fact).toOption = none := by
  cases fact with
  | tool family name => simp [Fact.fits] at h
  | quiz family passed score =>
    have hscore : score = .undefined := by simpa [Fact.fits] using h
    have hmax : ∀ old : Binary64, Binary64.max .undefined old = .undefined := fun _ => rfl
    subst hscore
    simp [note, recordQuiz, addQuiz, hmax, Except.map, Except.toOption]
  | tier family tier =>
    have htier : fitsStore tier = false := h
    simp [note, recordTier, htier, Except.map, Except.toOption]
  | gate name result =>
    have htier : fitsStore result.tier = false := h
    simp [note, recordGate, htier, Except.toOption]
  | step lab name result =>
    have hpercentage : fitsStore result.percentage = false := h
    simp [note, recordStep, hpercentage, Except.toOption]
  | review family event => simp [Fact.fits] at h

theorem call_record_of_not_fits {fact : Fact} (h : fact.fits = false) :
    (s.call (.record profile fact)).1 = s := by
  rw [call_record, note_of_not_fits h]
  rfl

/-- **The tables summarize the facts**: each of them is a fold for each key. -/
structure Summarizes (s : Store) (facts : ProfileNumber → List Fact) : Prop where
  /-- The tools. -/
  tools : Table.Folds (fun _ => mergeTool) Fact.toolOf s.tools facts
  /-- The quizzes. -/
  quizzes : Table.Folds (fun _ => mergeQuiz) Fact.quizOf s.quizzes facts
  /-- The tiers. -/
  tiers : Table.Folds (fun _ => mergeTier) Fact.tierOf s.tiers facts
  /-- The gates. -/
  gates : Table.Folds (fun _ => mergeGate) Fact.gateOf s.gates facts
  /-- The steps. -/
  steps : Table.Folds (fun _ => mergeStep) Fact.resultOf s.steps facts
  /-- The reviews. -/
  reviews : Table.Folds mergeReview Fact.reviewOf s.reviews facts

/-- The facts of all profiles with one more of a profile. -/
def addFact (facts : ProfileNumber → List Fact) (profile : ProfileNumber) (fact : Fact) :
    ProfileNumber → List Fact :=
  Function.update facts profile (facts profile ++ [fact])

/-- **A fact that is recorded is summarized**: it is merged into the table that it goes into,
and the other tables stay as they are. -/
theorem Summarizes.record (h : s.Summarizes facts) {fact : Fact} (hfits : fact.fits = true) :
    (s.call (.record profile fact)).1.Summarizes (addFact facts profile fact) := by
  obtain ⟨htools, hquizzes, htiers, hgates, hsteps, hreviews⟩ := h
  rw [call_record]
  cases fact with
  | tool family name =>
    exact ⟨htools.noting fun _ => rfl, hquizzes.passing fun _ => rfl, htiers.passing fun _ => rfl,
      hgates.passing fun _ => rfl, hsteps.passing fun _ => rfl, hreviews.passing fun _ => rfl⟩
  | quiz family passed score =>
    have hscore : score ≠ .undefined := by simpa [Fact.fits] using hfits
    rw [note, recordQuiz_eq s profile family passed hscore]
    exact ⟨htools.passing fun _ => rfl, hquizzes.noting fun _ => rfl, htiers.passing fun _ => rfl,
      hgates.passing fun _ => rfl, hsteps.passing fun _ => rfl, hreviews.passing fun _ => rfl⟩
  | tier family n =>
    have hnote : s.note profile (.tier family n) =
        .ok { s with tiers := Table.noting mergeTier s.tiers profile family n } := by
      have hn : fitsStore n = true := hfits
      simp [note, recordTier, hn, raiseTier, Except.map, Table.noting, mergeTier]
    rw [hnote]
    exact ⟨htools.passing fun _ => rfl, hquizzes.passing fun _ => rfl, htiers.noting fun _ => rfl,
      hgates.passing fun _ => rfl, hsteps.passing fun _ => rfl, hreviews.passing fun _ => rfl⟩
  | gate name result =>
    have hnote : s.note profile (.gate name result) =
        .ok { s with gates := Table.noting mergeGate s.gates profile name result } := by
      have htier : fitsStore result.tier = true := hfits
      simp [note, recordGate, htier, Table.noting, mergeGate]
    rw [hnote]
    exact ⟨htools.passing fun _ => rfl, hquizzes.passing fun _ => rfl, htiers.passing fun _ => rfl,
      hgates.noting fun _ => rfl, hsteps.passing fun _ => rfl, hreviews.passing fun _ => rfl⟩
  | step lab name result =>
    have hnote : s.note profile (.step lab name result) =
        .ok { s with steps := Table.noting mergeStep s.steps profile (lab, name) result } := by
      have hpercentage : fitsStore result.percentage = true := hfits
      cases hold : s.steps.get? (profile, lab, name) <;>
        simp [note, recordStep, hpercentage, hold, Table.noting, mergeStep]
    rw [hnote]
    exact ⟨htools.passing fun _ => rfl, hquizzes.passing fun _ => rfl, htiers.passing fun _ => rfl,
      hgates.passing fun _ => rfl, hsteps.noting fun _ => rfl, hreviews.passing fun _ => rfl⟩
  | review family event =>
    have hnote : (s.note profile (.review family event)).toOption.getD s =
        { s with reviews := Table.noting (mergeReview family) s.reviews profile family event } := by
      rw [note_review, putOff_eq, schedule?]
      cases hday : event.now.addDays? (event.next (s.reviews.get? (profile, family))).1 <;>
        simp [Table.noting, mergeReview, hday, Except.toOption]
    rw [hnote]
    exact ⟨htools.passing fun _ => rfl, hquizzes.passing fun _ => rfl, htiers.passing fun _ => rfl,
      hgates.passing fun _ => rfl, hsteps.passing fun _ => rfl, hreviews.noting fun _ => rfl⟩

/-- **What becomes of a new profile.** It is refused because the numbers are used up, or for its
name, with nothing done; or it is added under the next number. -/
theorem call_create (s : Store) (name : String) :
    (ProfileNumber.ofInt? (s.lastId + 1) = none ∧ s.call (.create name) = (s, .refused .full)) ∨
    ((∃ p ∈ s.profiles, p.name = name) ∧ s.call (.create name) = (s, .refused .nameTaken)) ∨
    ∃ id : ProfileNumber, id.toInt = s.lastId + 1 ∧ (∀ p ∈ s.profiles, p.name ≠ name) ∧
      s.call (.create name) =
        ({ s with profiles := s.profiles ++ [⟨id, name⟩], lastId := id },
          .created ⟨id, name⟩) := by
  cases hcreate : s.createProfile name with
  | error fault =>
    rcases createProfile_eq_error hcreate with ⟨rfl, hfull⟩ | ⟨rfl, htaken⟩
    · exact .inl ⟨hfull, by rw [call, hcreate]⟩
    · exact .inr (.inl ⟨htaken, by rw [call, hcreate]⟩)
  | ok r =>
    obtain ⟨id, hid, hnew, rfl⟩ := createProfile_eq_ok hcreate
    exact .inr (.inr ⟨id, hid, hnew, by rw [call, hcreate]⟩)

/-- Creating a profile touches no table. -/
theorem Summarizes.create (h : s.Summarizes facts) (name : String) :
    (s.call (.create name)).1.Summarizes facts := by
  rcases s.call_create name with ⟨-, hcall⟩ | ⟨-, hcall⟩ | ⟨id, -, -, hcall⟩
  · rwa [hcall]
  · rwa [hcall]
  · rw [hcall]
    exact ⟨h.tools, h.quizzes, h.tiers, h.gates, h.steps, h.reviews⟩

/-- A deletion removes the entries of a profile from every table. -/
theorem Summarizes.delete (h : s.Summarizes facts) (profile : ProfileNumber) :
    (s.call (.delete profile)).1.Summarizes (Function.update facts profile []) := by
  rw [call_delete]
  exact ⟨h.tools.deleteProfile, h.quizzes.deleteProfile, h.tiers.deleteProfile,
    h.gates.deleteProfile, h.steps.deleteProfile, h.reviews.deleteProfile⟩

theorem Summarizes.congr {facts' : ProfileNumber → List Fact} (h : s.Summarizes facts)
    (hfacts : ∀ p, facts' p = facts p) : s.Summarizes facts' :=
  (funext hfacts : facts' = facts) ▸ h

/-- **After any calls of an empty store, the tables summarize the facts** of every profile
since it was last deleted. -/
theorem summarizes_run (cs : List StoreCall) :
    (run {} cs).Summarizes fun p => StoreCall.factsOf p cs := by
  -- From the back, since both the store and the facts of a profile change with the last call.
  induction cs using List.reverseRecOn with
  | nil => exact ⟨fun _ _ => rfl, fun _ _ => rfl, fun _ _ => rfl, fun _ _ => rfl, fun _ _ => rfl,
      fun _ _ => rfl⟩
  | append_singleton cs c ih =>
    rw [run_concat]
    cases c with
    | create name =>
      refine (ih.create name).congr fun p => ?_
      simp [StoreCall.factsOf_concat, StoreCall.deletes, StoreCall.factOf?]
    | delete n =>
      cases hn : ProfileNumber.ofInt? n with
      | none =>
        rw [(call_of_ofInt?_eq_none hn _).1]
        refine ih.congr fun p => ?_
        simp [StoreCall.factsOf_concat, StoreCall.deletes, StoreCall.factOf?,
          ProfileNumber.ofInt?_eq_none_iff.1 hn p]
      | some profile =>
        obtain rfl := ProfileNumber.ofInt?_eq_some_iff.1 hn
        refine (ih.delete profile).congr fun p => ?_
        by_cases hp : profile = p
        · simp [StoreCall.factsOf_concat, StoreCall.deletes, hp]
        · simp [StoreCall.factsOf_concat, StoreCall.deletes, StoreCall.factOf?, hp, Ne.symm hp]
    | record n fact =>
      cases hn : ProfileNumber.ofInt? n with
      | none =>
        rw [(call_of_ofInt?_eq_none hn _).2]
        refine ih.congr fun p => ?_
        simp [StoreCall.factsOf_concat, StoreCall.deletes, StoreCall.factOf?,
          ProfileNumber.ofInt?_eq_none_iff.1 hn p]
      | some profile =>
        obtain rfl := ProfileNumber.ofInt?_eq_some_iff.1 hn
        cases hfits : fact.fits with
        | false =>
          rw [call_record_of_not_fits hfits]
          refine ih.congr fun p => ?_
          simp [StoreCall.factsOf_concat, StoreCall.deletes, StoreCall.factOf?, hfits]
        | true =>
          refine (ih.record hfits).congr fun p => ?_
          by_cases hp : profile = p
          · subst hp
            simp [StoreCall.factsOf_concat, StoreCall.deletes, StoreCall.factOf?, hfits, addFact]
          · simp [StoreCall.factsOf_concat, StoreCall.deletes, StoreCall.factOf?, hp, Ne.symm hp,
              addFact]

end Store

end ClusterTutor
