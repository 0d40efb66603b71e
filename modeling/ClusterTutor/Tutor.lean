import ClusterTutor.Catalogue.Basic
import ClusterTutor.Lab
import ClusterTutor.Progress.Store

/-!
# The tutor

The tutor brings the content – commands, families and labs – together with what is
remembered of the learners. Whenever a fact that counts for tiers is recorded, the tiers
are decided anew, and a tier that has been reached is recorded so that it stays open.

Completing a lab passes the explanation gate of its tier and puts the family on the
review schedule.
-/

namespace ClusterTutor

/-- The content and what is remembered of the learners. -/
structure Tutor where
  /-- The commands. -/
  catalogue : Catalogue
  /-- The families of commands. -/
  families : Families
  /-- The labs by name. -/
  labs : OrderedMap String Lab
  /-- What is remembered. -/
  store : Store := {}

/-- Why a quiz score is not recorded. -/
inductive QuizFault where
  /-- There is no such family. -/
  | unknownFamily (family : String)
  /-- The score is no percentage. -/
  | scoreOutOfRange
deriving DecidableEq, Repr

/-- The message about a score that is not recorded. -/
def QuizFault.message : QuizFault → String
  | .unknownFamily family => Text.quoted family
  | .scoreOutOfRange => "Quiz score must be between 0 and 100."

/-- How a family stands. -/
structure TierStatus where
  /-- The family. -/
  family : Family
  /-- The highest unlocked tier. -/
  highest : Int
  /-- What is missing for the next tier, if there is one. -/
  requirement : Option String

/-- How a lab stands. -/
structure LabStatus where
  /-- The lab. -/
  lab : Lab
  /-- Whether its tier is unlocked. -/
  unlocked : Bool
  /-- How many steps were ever passed. -/
  completedSteps : Nat

namespace Tutor

/-! ### Recording -/

/-- Records the tiers of families that facts have opened. -/
def refreshTiers (t : Tutor) (profile : ProfileNumber) (families : List String) : Tutor :=
  let facts := t.store.tierFacts profile
  let raise : Store → String → Store := fun s family =>
    let highest := facts.highestTier t.families family
    if (facts.unlockedTiers.get? family).getD 1 < highest then s.raiseTier profile family highest
    else s
  { t with store := families.foldl raise t.store }

/-- Records that a tool was used, for every family it belongs to. -/
def markToolUsed (t : Tutor) (profile : ProfileNumber) (tool : String) : Tutor :=
  let families := t.families.ofTool tool
  let store := families.foldl (fun s family => s.markToolUsed profile family tool) t.store
  { t with store }.refreshTiers profile families

/-- Records a quiz score. -/
def recordQuiz (t : Tutor) (profile : ProfileNumber) (family : String) (score : Binary64) :
    Except QuizFault (Tutor × QuizResult) :=
  if !t.families.contains family then .error (.unknownFamily family)
  else if !(Binary64.intLe 0 score && score.leInt 100) then .error .scoreOutOfRange
  else
    match t.store.recordQuiz profile family (Binary64.intLe quizThreshold score) score with
    | .error _ => .error .scoreOutOfRange
    | .ok (store, result) => .ok ({ t with store }.refreshTiers profile [family], result)

/-- The name of the explanation gate of a tier. -/
def gateName (family : String) (tier : Int) : String :=
  s!"{family}:tier{tier}"

/-- Records the outcome of the explanation gate of a tier. -/
def recordGate (t : Tutor) (profile : ProfileNumber) (family : String) (tier : Int)
    (scenario : String) (passed : Bool) : Except StoreFault Tutor :=
  (t.store.recordGate profile (gateName family tier) { passed, scenario, family, tier }).map
    fun store => { t with store }.refreshTiers profile [family]

/-- Puts a family on the review schedule, or counts a successful review. -/
def reviewAfterLab (t : Tutor) (now : Instant) (profile : ProfileNumber) (family : String) :
    Except StoreFault Tutor :=
  let reviewed := match t.store.schedule? profile family with
    | none => t.store.scheduleReview now profile family
    | some _ => t.store.recordReview now profile family true
  reviewed.map fun r => { t with store := r.1 }

/-- Records that a lab was completed. If the review cannot be scheduled, the gate has
been recorded nevertheless. -/
def completeLab (t : Tutor) (now : Instant) (profile : ProfileNumber) (lab : Lab) :
    Tutor × Except StoreFault Unit :=
  match t.recordGate profile lab.family lab.tier lab.id true with
  | .error fault => (t, .error fault)
  | .ok t =>
    match t.reviewAfterLab now profile lab.family with
    | .error fault => (t, .error fault)
    | .ok t => (t, .ok ())

/-- Adds a profile with a name without the blanks around it. -/
def createProfile (t : Tutor) (name : String) : Except StoreFault (Tutor × Profile) :=
  (t.store.createProfile (Text.trim name)).map fun (store, p) => ({ t with store }, p)

/-- Deletes a profile, and says whether there was one. -/
def deleteProfile (t : Tutor) (profile : ProfileNumber) : Tutor × Bool :=
  let (store, found) := t.store.deleteProfile profile
  ({ t with store }, found)

/-! ### Looking up -/

/-- The families that are due for a review. -/
def dueReviews (t : Tutor) (profile : ProfileNumber) (now : Instant) : List Family :=
  (t.store.dueReviews profile now).filterMap t.families.get?

/-- How the families stand, in the order of their short names. -/
def tierStatuses (t : Tutor) (profile : ProfileNumber) : List TierStatus :=
  let facts := t.store.tierFacts profile
  (Text.sortedBy Family.id t.families.values).map fun f =>
    let highest := facts.highestTier t.families f.id
    let requirement :=
      if highest < maxTier then some (facts.requirementMessage t.families f.id (highest + 1))
      else none
    { family := f, highest, requirement }

/-- Whether a lab comes before another one, or stands at the same place. -/
def labLe (a b : Lab) : Bool :=
  if a.family ≠ b.family then decide (a.family < b.family)
  else if a.tier ≠ b.tier then decide (a.tier < b.tier)
  else decide (a.id ≤ b.id)

/-- How the labs stand, in the order of families, tiers and names. -/
def labStatuses (t : Tutor) (profile : ProfileNumber) : List LabStatus :=
  let facts := t.store.tierFacts profile
  (t.labs.values.mergeSort labLe).map fun lab =>
    { lab
      unlocked := facts.isUnlocked t.families lab.family lab.tier
      completedSteps := ((t.store.stepResults profile lab.id).filter fun e => e.2.passed).length }

/-- What is missing for a lab. -/
def labRequirement (t : Tutor) (profile : ProfileNumber) (lab : Lab) : String :=
  (t.store.tierFacts profile).requirementMessage t.families lab.family lab.tier

end Tutor

end ClusterTutor
