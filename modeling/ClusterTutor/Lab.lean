import ClusterTutor.Hint.Basic
import ClusterTutor.Simulation.State
import ClusterTutor.Text.Order

/-!
# Labs

A lab is a scenario in steps. Each step expects certain command lines and is passed
when enough of them were executed; a lab may also say how the simulated machines differ
from the usual ones when it starts.
-/

namespace ClusterTutor

/-- A step of a lab. -/
structure LabStep where
  /-- The name of the step. -/
  id : String
  /-- What the learner is asked to do. -/
  title : String
  /-- The lines that are expected. -/
  expected : List String
  /-- The percentage of them from which on the step is passed. -/
  passingScore : Int := 100
  /-- The hints. -/
  hints : List Hint := []
  /-- More about the step. -/
  description : String := ""

/-- A scenario. -/
structure Lab where
  /-- The name of the lab. -/
  id : String
  /-- Its title. -/
  title : String
  /-- The family of commands it belongs to. -/
  family : String
  /-- The tier of the family that has to be unlocked. -/
  tier : Int := 1
  /-- What the lab is about. -/
  description : String := ""
  /-- The steps. -/
  steps : List LabStep
  /-- How the simulated machines differ at the start. -/
  initialState : Snapshot := .empty

instance : Inhabited Lab := ⟨{ id := "", title := "", family := "", steps := [] }⟩

namespace LabStep

/-- Reads a step of a lab. -/
def ofValue (lab : String) (v : Value) : Except Defect LabStep := do
  let lines ← (← v.partsOfField "expected_commands").mapM Value.toText
  let expected := lines.filterMap fun line =>
    let s := Text.trim line
    if s.isEmpty then none else some s
  if expected.isEmpty then throw (.stepWithoutCommands (← v.textField "id" "<unknown>") lab)
  let passingScore ← ((← v.optional "passing_score").getD (.int 100)).toInt
  unless 0 ≤ passingScore ∧ passingScore ≤ 100 do
    throw (.passingScoreOutOfRange (← v.textField "id" "None") lab)
  let id ← (← v.required "id").toText
  let title ← (← v.required "title").toText
  let hints ← Hint.listOf ((← v.optional "hints").getD (.array []))
  return { id, title, expected, passingScore, hints, description := ← v.textField "description" "" }

end LabStep

namespace Lab

/-- Reads a lab. -/
def ofValue (v : Value) : Except Defect Lab := do
  let id ← (← v.required "id").toText
  let steps ← (← v.partsOfField "steps").mapM (LabStep.ofValue id)
  unless Text.allDistinct (steps.map LabStep.id) do throw (.repeatedStep id)
  match (← v.optional "initial_state").getD (.object []) with
  | .object domains =>
    let title ← (← v.required "title").toText
    let family ← (← v.required "family").toText
    let tier ← ((← v.optional "tier").getD (.int 1)).toInt
    let description ← v.textField "description" ""
    return { id, title, family, tier, description, steps,
             initialState := ← Snapshot.ofDomains domains }
  | _ => throw (.initialStateNotObject id)

/-- Reads labs, each with a name of its own. -/
def listOf (vs : List Value) : Except Defect (OrderedMap String Lab) :=
  vs.foldlM (fun (labs : OrderedMap String Lab) v => do
    let lab ← ofValue v
    if labs.contains lab.id then throw (.repeatedLab lab.id)
    return labs.insert lab.id lab) .empty

end Lab

end ClusterTutor
