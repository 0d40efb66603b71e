import ClusterTutor.Calendar
import ClusterTutor.Progress.Table
import ClusterTutor.Tier.Basic

/-!
# The progress store

The store remembers, for each profile, the tools used, the quizzes, the unlocked tiers,
the explanation gates, the review schedules and the results of lab steps. Each kind of
fact is folded in its own way:

| fact | what is kept |
|---|---|
| a tool was used | the set of tools |
| a quiz was taken | the best score, whether any was passed, how many there were |
| a tier was unlocked | the highest tier |
| a gate was tried | the latest outcome |
| a step was scored | the best percentage, whether it was ever passed |
| a family was reviewed | the latest schedule |

Profiles have distinct names and get numbers that are never used again, not even after
the profile with the highest number was deleted. Facts may be recorded for any number
that the store can hold, and none for another (`ClusterTutor.ProfileNumber.ofInt`).
-/

namespace ClusterTutor

/-- A learner. -/
structure Profile where
  /-- The number of the profile. -/
  id : ProfileNumber
  /-- Its name. -/
  name : String
deriving DecidableEq, Repr

/-- When a family is to be reviewed. -/
structure ReviewSchedule where
  /-- The family. -/
  family : String
  /-- When it is due. -/
  dueAt : Instant
  /-- How many days the review was put off. -/
  intervalDays : Nat
  /-- How many reviews in a row were successful. -/
  successes : Nat
deriving DecidableEq, Repr

/-- The best result of a lab step. -/
structure StepResult where
  /-- The best percentage. -/
  percentage : Int
  /-- Whether the step was ever passed. -/
  passed : Bool
deriving DecidableEq, Repr

/-- Why the store refuses an operation. -/
inductive StoreFault where
  /-- A profile has the name already. -/
  | nameTaken
  /-- The last number of a profile has been given out. -/
  | full
  /-- A number does not fit into the store. -/
  | numberTooLarge
  /-- A score is not a number. -/
  | undefinedScore
  /-- A review would be due after the end of the calendar. -/
  | afterCalendar
  /-- The store was written in a later format. -/
  | newerSchema (version : Int)
deriving DecidableEq, Repr

/-- The format in which the store is written. -/
def schemaVersion : Int := 1

/-- The message about a refusal, where there is one. -/
def StoreFault.message? : StoreFault → Option String
  | .newerSchema version =>
    some s!"Database schema version {version} is newer than supported {schemaVersion}."
  | _ => none

/-- The days until the first review. -/
def initialReviewInterval : Nat := 1

/-- The most days between two reviews. -/
def maxReviewInterval : Nat := 30

/-- What is remembered of all learners. -/
structure Store where
  /-- The profiles. -/
  profiles : List Profile := []
  /-- The highest number that a profile has had. -/
  lastId : Int := 0
  /-- The tools used, by family. -/
  tools : Table String NameSet := .empty
  /-- The quizzes, by family. -/
  quizzes : Table String QuizResult := .empty
  /-- The unlocked tiers, by family. -/
  tiers : Table String Int := .empty
  /-- The explanation gates, by name. -/
  gates : Table String GateResult := .empty
  /-- The review schedules, by family. -/
  reviews : Table String ReviewSchedule := .empty
  /-- The step results, by lab and step. -/
  steps : Table (String × String) StepResult := .empty
  /-- The format that the store is marked with. -/
  version : Int := schemaVersion

instance : Inhabited Store := ⟨{}⟩

/-- The profile that a caller asks for by a number. -/
def ProfileNumber.ofInt (n : Int) : Except StoreFault ProfileNumber :=
  match ofInt? n with
  | some profile => .ok profile
  | none => .error .numberTooLarge

namespace Store

/-! ### Profiles -/

/-- The profiles in the order of their names. -/
def listProfiles (s : Store) : List Profile :=
  Text.sortedBy Profile.name s.profiles

/-- The profile with a number. -/
def profile? (s : Store) (id : ProfileNumber) : Option Profile :=
  s.profiles.find? fun p => p.id == id

/-- Adds a profile. -/
def createProfile (s : Store) (name : String) : Except StoreFault (Store × Profile) :=
  match ProfileNumber.ofInt? (s.lastId + 1) with
  | none => .error .full
  | some id =>
    if s.profiles.any fun p => p.name == name then .error .nameTaken
    else .ok ({ s with profiles := s.profiles ++ [⟨id, name⟩], lastId := id }, ⟨id, name⟩)

/-- A new profile gets the next number, and a name that no other has. -/
theorem createProfile_eq_ok {s : Store} {name : String} {r : Store × Profile}
    (h : s.createProfile name = .ok r) :
    ∃ id : ProfileNumber, id.toInt = s.lastId + 1 ∧ (∀ p ∈ s.profiles, p.name ≠ name) ∧
      r = ({ s with profiles := s.profiles ++ [⟨id, name⟩], lastId := id }, ⟨id, name⟩) := by
  unfold createProfile at h
  split at h
  · cases h
  · rename_i id hid
    split at h
    · cases h
    · rename_i hany
      exact ⟨id, ProfileNumber.ofInt?_eq_some_iff.1 hid, by simpa using hany,
        (Except.ok.inj h).symm⟩

/-- A new profile is refused for its number or for its name. -/
theorem createProfile_eq_error {s : Store} {name : String} {fault : StoreFault}
    (h : s.createProfile name = .error fault) :
    fault = .full ∧ ProfileNumber.ofInt? (s.lastId + 1) = none ∨
      fault = .nameTaken ∧ ∃ p ∈ s.profiles, p.name = name := by
  unfold createProfile at h
  split at h
  · rename_i hid
    exact .inl ⟨(Except.error.inj h).symm, hid⟩
  · split at h
    · rename_i hany
      exact .inr ⟨(Except.error.inj h).symm, by simpa using hany⟩
    · cases h

/-- Deletes a profile with all that is known of it, and says whether there was one. -/
def deleteProfile (s : Store) (id : ProfileNumber) : Store × Bool :=
  ({ s with
      profiles := s.profiles.filter fun p => p.id != id
      tools := Table.deleteProfile s.tools id
      quizzes := Table.deleteProfile s.quizzes id
      tiers := Table.deleteProfile s.tiers id
      gates := Table.deleteProfile s.gates id
      reviews := Table.deleteProfile s.reviews id
      steps := Table.deleteProfile s.steps id },
    (s.profile? id).isSome)

/-! ### Facts about tiers -/

/-- Records that a tool of a family was used. -/
def markToolUsed (s : Store) (profile : ProfileNumber) (family tool : String) : Store :=
  let used := (s.tools.get? (profile, family)).getD .empty
  { s with tools := s.tools.insert (profile, family) (used.insert tool) }

/-- The quizzes of a family with one more. -/
def addQuiz (old : Option QuizResult) (passed : Bool) (score : Binary64) : QuizResult where
  passed := passed || old.any QuizResult.passed
  score := score.max ((old.map QuizResult.score).getD (.finite 0))
  attempts := (old.map QuizResult.attempts).getD 0 + 1

/-- Records a quiz, and answers its result. The score is kept without a sign on its
zero. -/
def recordQuiz (s : Store) (profile : ProfileNumber) (family : String) (passed : Bool)
    (score : Binary64) : Except StoreFault (Store × QuizResult) :=
  let result := addQuiz (s.quizzes.get? (profile, family)) passed score
  if result.score = .undefined then .error .undefinedScore
  else
    let kept := { result with score := result.score.unsignedZero }
    .ok ({ s with quizzes := s.quizzes.insert (profile, family) kept }, result)

/-- Raises the recorded tier of a family to a tier, unless it is higher already. -/
def raiseTier (s : Store) (profile : ProfileNumber) (family : String) (tier : Int) : Store :=
  let best := (s.tiers.get? (profile, family)).elim tier fun old => max old tier
  { s with tiers := s.tiers.insert (profile, family) best }

/-- Records that a tier was unlocked, and answers the highest one recorded. -/
def recordTier (s : Store) (profile : ProfileNumber) (family : String) (tier : Int) :
    Except StoreFault (Store × Int) :=
  if !fitsStore tier then .error .numberTooLarge
  else
    let s := s.raiseTier profile family tier
    .ok (s, (s.tiers.get? (profile, family)).getD 1)

/-- Records the outcome of an explanation gate. -/
def recordGate (s : Store) (profile : ProfileNumber) (gate : String) (result : GateResult) :
    Except StoreFault Store :=
  if !fitsStore result.tier then .error .numberTooLarge
  else .ok { s with gates := s.gates.insert (profile, gate) result }

/-- What is known of a profile when tiers are decided. -/
def tierFacts (s : Store) (profile : ProfileNumber) : TierFacts where
  toolsUsed := Table.ofProfile s.tools profile
  quizzes := Table.ofProfile s.quizzes profile
  unlockedTiers := Table.ofProfile s.tiers profile
  gates := Table.ofProfile s.gates profile

/-! ### Steps -/

/-- Records the result of a lab step. -/
def recordStep (s : Store) (profile : ProfileNumber) (lab step : String) (result : StepResult) :
    Except StoreFault Store :=
  if !fitsStore result.percentage then .error .numberTooLarge
  else
    let best := match s.steps.get? (profile, lab, step) with
      | some old => ⟨max old.percentage result.percentage, old.passed || result.passed⟩
      | none => result
    .ok { s with steps := s.steps.insert (profile, lab, step) best }

/-- The results of the steps of a lab, in the order of their names. -/
def stepResults (s : Store) (profile : ProfileNumber) (lab : String) : List (String × StepResult) :=
  Text.sortedBy Prod.fst
    (((Table.ofProfile s.steps profile).toList.filter fun e => e.1.1 == lab).map fun e =>
      (e.1.2, e.2))

/-! ### Reviews -/

/-- The schedule of a family. -/
def schedule? (s : Store) (profile : ProfileNumber) (family : String) : Option ReviewSchedule :=
  s.reviews.get? (profile, family)

/-- Puts a review off by a number of days from now. -/
def putOff (s : Store) (now : Instant) (profile : ProfileNumber) (family : String) (days : Nat)
    (successes : Nat) : Except StoreFault (Store × ReviewSchedule) :=
  match now.addDays? days with
  | none => .error .afterCalendar
  | some dueAt =>
    let r : ReviewSchedule := ⟨family, dueAt, days, successes⟩
    .ok ({ s with reviews := s.reviews.insert (profile, family) r }, r)

/-- Starts the reviews of a family, or starts them again. -/
def scheduleReview (s : Store) (now : Instant) (profile : ProfileNumber) (family : String) :
    Except StoreFault (Store × ReviewSchedule) :=
  s.putOff now profile family initialReviewInterval 0

/-- The interval and the successes in a row after one more review. A success doubles
the interval, up to a limit; a failure starts again. -/
def nextInterval (old : Option ReviewSchedule) (success : Bool) : Nat × Nat :=
  match old with
  | none => (initialReviewInterval, if success then 1 else 0)
  | some r =>
    if success then (min (r.intervalDays * 2) maxReviewInterval, r.successes + 1)
    else (initialReviewInterval, 0)

/-- Records a review. -/
def recordReview (s : Store) (now : Instant) (profile : ProfileNumber) (family : String)
    (success : Bool) : Except StoreFault (Store × ReviewSchedule) :=
  let next := nextInterval (s.schedule? profile family) success
  s.putOff now profile family next.1 next.2

/-- The families that are due at a moment, in the order of the texts of their due times;
families with one due time are in the order of their names. -/
def dueReviews (s : Store) (profile : ProfileNumber) (moment : Instant) : List String :=
  let rows := Text.sortedBy ReviewSchedule.family (Table.ofProfile s.reviews profile).values
  ((Text.sortedBy (fun r => r.dueAt.text) rows).filter fun r => r.dueAt.le moment).map
    ReviewSchedule.family

/-! ### Opening again -/

/-- A store with its format marked anew. The mark has 32 bits, and zero stands for a
number that does not fit. -/
def mark (s : Store) (version : Int) : Store :=
  { s with version := if version < -2147483648 || 2147483647 < version then 0 else version }

/-- Opens a store that is marked with a format. -/
def reopen (s : Store) : Except StoreFault Store :=
  if schemaVersion < s.version then .error (.newerSchema s.version)
  else .ok { s with version := schemaVersion }

end Store

end ClusterTutor
