import ClusterTutor.Hint.Basic
import ClusterTutor.Text.NameSet

/-!
# Revealing hints

The hints of a step are looked at in the order of their levels, and among hints of one
level in the order of the content. The next hint to be revealed is the first available
one that has not been revealed; a revealed hint stays available.

What is revealed is remembered by the names of the hints.
-/

namespace ClusterTutor

/-- What a learner has done in a step. -/
structure StepActivity where
  /-- How long the step has taken. -/
  elapsed : Magnitude := .whole 0
  /-- How many lines have failed. -/
  failedAttempts : Int := 0
  /-- The lines that were typed. -/
  typed : List String := []
  /-- The hints that were revealed. -/
  revealed : NameSet := .empty

/-- Why hints cannot be evaluated. -/
inductive HintFault where
  /-- A threshold of a trigger is no number. -/
  | incomparable
deriving DecidableEq, Repr

/-- Whether a threshold has been reached. -/
def reached (threshold : Value) (measured : Magnitude) : Except HintFault Bool :=
  match threshold.magnitude? with
  | some t => .ok (t.le measured)
  | none => .error .incomparable

namespace HintTrigger

/-- Whether a trigger is met. -/
def isMet (t : HintTrigger) (a : StepActivity) : Except HintFault Bool :=
  match t.kind with
  | .string "manual" => .ok true
  | .string "time" =>
    match t.seconds with
    | .null => .ok false
    | seconds => reached seconds a.elapsed
  | .string "attempts" =>
    if t.count.truthy then reached t.count (.whole a.failedAttempts) else .ok false
  | .string "command" => .ok (t.pattern.any (·.matchesAny a.typed))
  | _ => .ok false

end HintTrigger

namespace Hint

/-- Whether a hint can be revealed now or has been revealed. -/
def isAvailable (h : Hint) (a : StepActivity) : Except HintFault Bool :=
  if a.revealed.contains h.id then .ok true
  else do
    if ← h.trigger.isMet a then return !h.heldBackBy.any (·.matchesAny a.typed)
    else return false

/-- Hints in the order of their levels. -/
def ordered (hs : List Hint) : List Hint :=
  hs.mergeSort fun g h => decide (g.level ≤ h.level)

/-- The hints of a list that are available. -/
def filterAvailable (a : StepActivity) : List Hint → Except HintFault (List Hint)
  | [] => .ok []
  | h :: hs => do
    let available ← h.isAvailable a
    let rest ← filterAvailable a hs
    return if available then h :: rest else rest

end Hint

/-- How the hints of a step stand. -/
structure HintStatus where
  /-- How many names of hints were revealed. -/
  revealedCount : Nat
  /-- How many hints there are. -/
  totalCount : Nat
  /-- The available hints in order. -/
  available : List Hint
  /-- The hint to be revealed next. -/
  next : Option Hint

namespace HintStatus

/-- How hints stand after some activity. -/
def of (hs : List Hint) (a : StepActivity) : Except HintFault HintStatus := do
  let available ← Hint.filterAvailable a (Hint.ordered hs)
  return {
    revealedCount := (a.revealed.toList.filter fun id => hs.any fun h => h.id == id).length
    totalCount := hs.length
    available
    next := available.find? fun h => !a.revealed.contains h.id }

/-- The status line. -/
def line (s : HintStatus) : String :=
  if s.totalCount == 0 then "No hints available for this step."
  else if s.revealedCount == s.totalCount then
    s!"All hints revealed ({s.totalCount}/{s.totalCount})."
  else if s.next.isSome then
    s!"Hint available ({s.revealedCount + 1}/{s.totalCount}). Type :hint to see it."
  else s!"No new hints yet ({s.revealedCount}/{s.totalCount} revealed). Keep trying."

end HintStatus

namespace Hint

/-- Reveals the next hint, if there is one. -/
def revealNext (hs : List Hint) (a : StepActivity) :
    Except HintFault (Option Hint × StepActivity) := do
  match (← HintStatus.of hs a).next with
  | none => return (none, a)
  | some h => return (some h, { a with revealed := a.revealed.insert h.id })

/-- The name of a level. -/
def levelName (level : Int) : String :=
  if level = 1 then "Gentle Nudge"
  else if level = 2 then "More Specific"
  else if level = 3 then "Very Specific"
  else "Helpful Tip"

/-- A hint as it is shown, as the `index`-th of `total`. -/
def page (h : Hint) (index total : Nat) : String :=
  s!"HINT {index}/{total} - {levelName h.level}\n  {h.message}"

end Hint

end ClusterTutor
