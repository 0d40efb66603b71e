import ClusterTutor.Family
import ClusterTutor.Number.Decimal
import ClusterTutor.Text.NameSet

/-!
# Tiers

Every family has three tiers, and the labs of a tier open when the tier is unlocked.
The first one always is. The second one needs a quiz score of at least
`ClusterTutor.quizThreshold` and every tool of the family used once. The third one also
needs a passed explanation gate of the second. A tier that was once recorded as unlocked
stays so, whatever happens to the facts it was earned by.
-/

namespace ClusterTutor

/-- The quiz score, in percent, from which on a quiz is passed. -/
def quizThreshold : Int := 75

/-- The highest tier. -/
def maxTier : Int := 3

/-- The outcome of the quizzes of a family. -/
structure QuizResult where
  /-- Whether one was passed. -/
  passed : Bool
  /-- The best score. -/
  score : Binary64
  /-- How many were taken. -/
  attempts : Int
deriving DecidableEq, Repr

/-- The outcome of an explanation gate. -/
structure GateResult where
  /-- Whether it was passed. -/
  passed : Bool
  /-- The scenario that was explained. -/
  scenario : String
  /-- The family it counts for. -/
  family : String
  /-- The tier it counts for. -/
  tier : Int
deriving DecidableEq, Repr

/-- What is known of a learner when tiers are decided. -/
structure TierFacts where
  /-- The tools used, by family. -/
  toolsUsed : OrderedMap String NameSet := .empty
  /-- The quizzes, by family. -/
  quizzes : OrderedMap String QuizResult := .empty
  /-- The highest recorded tier, by family. -/
  unlockedTiers : OrderedMap String Int := .empty
  /-- The explanation gates, by name. -/
  gates : OrderedMap String GateResult := .empty

namespace TierFacts

/-- Whether the best quiz score of a family is a pass. -/
def quizPassed (s : TierFacts) (family : String) : Bool :=
  (s.quizzes.get? family).any fun r => Binary64.intLe quizThreshold r.score

/-- The tools of a family that were not used, in order. -/
def missingTools (s : TierFacts) (f : Family) : List String :=
  let used := (s.toolsUsed.get? f.id).getD .empty
  f.toolNames.filter fun t => !used.contains t

/-- Whether an explanation gate of a tier was passed. -/
def gatePassed (s : TierFacts) (family : String) (tier : Int) : Bool :=
  s.gates.values.any fun g => g.passed && g.family == family && g.tier == tier

/-- Whether the facts alone open a tier of a family, which is known under a name. -/
def earned (s : TierFacts) (family : String) (f : Family) (tier : Int) : Bool :=
  s.quizPassed family && (s.missingTools f).isEmpty && (tier == 2 || s.gatePassed family 2)

/-- Whether a tier of a family is unlocked. -/
def isUnlocked (s : TierFacts) (families : Families) (family : String) (tier : Int) : Bool :=
  if tier ≤ 1 then true
  else if maxTier < tier then false
  else if tier ≤ (s.unlockedTiers.get? family).getD 1 then true
  else match families.get? family with
    | none => false
    | some f => s.earned family f tier

/-- The highest unlocked tier of a family. -/
def highestTier (s : TierFacts) (families : Families) (family : String) : Int :=
  if !s.isUnlocked families family 2 then 1
  else if !s.isUnlocked families family 3 then 2
  else 3

/-- What is missing for a tier of a family, which is known under a name. -/
def requirements (s : TierFacts) (family : String) (f : Family) (tier : Int) : List String :=
  let quiz := if s.quizPassed family then [] else
    let best := (s.quizzes.get? family).elim "" fun r => s!" (best {r.score.toPlaces 0}%)"
    [s!"score at least {quizThreshold}% on the {f.name} quiz{best}"]
  let unused := s.missingTools f
  let tools := if unused.isEmpty then [] else ["use " ++ ", ".intercalate unused]
  let gate :=
    if 3 ≤ tier && !s.gatePassed family 2 then ["pass the tier 2 explanation gate"] else []
  quiz ++ tools ++ gate

/-- What the learner is told about a tier of a family. -/
def requirementMessage (s : TierFacts) (families : Families) (family : String) (tier : Int) :
    String :=
  if s.isUnlocked families family tier then s!"Tier {tier} is unlocked."
  else match families.get? family with
    | none => s!"Unknown command family: {family}"
    | some f =>
      s!"To unlock tier {tier} of {f.name}: " ++
        "; ".intercalate (s.requirements family f tier) ++ "."

end TierFacts

end ClusterTutor
