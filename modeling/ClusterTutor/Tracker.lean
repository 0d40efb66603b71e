import ClusterTutor.Text.Blank
import ClusterTutor.Text.NameSet

/-!
# Scoring a step

A tracker remembers the command lines that were executed, each with its words one space
apart: in order, as the history, and once more as the set of lines that were seen. A step
expects certain lines: those that were seen, whatever their spacing, are *matched*, and
the step is scored by the share of matched lines, rounded down to whole percents.
-/

namespace ClusterTutor

/-- The executed command lines. -/
structure Tracker where
  /-- The lines in order, squeezed; none is empty. -/
  lines : List String := []
  /-- The same lines, each once. -/
  seen : NameSet := .empty
deriving DecidableEq, Inhabited

namespace Tracker

/-- A tracker with one more line; a blank line is not remembered. -/
def record (t : Tracker) (line : String) : Tracker :=
  let s := Text.squeeze line
  if s.isEmpty then t else { lines := t.lines ++ [s], seen := t.seen.insert s }

/-- Whether a line was executed, in any spacing. -/
def hasSeen (t : Tracker) (line : String) : Bool :=
  t.seen.contains (Text.squeeze line)

/-- The expected lines that were executed. -/
def matched (t : Tracker) (expected : List String) : List String :=
  expected.filter t.hasSeen

end Tracker

/-- The score of a step. -/
structure StepScore where
  /-- The expected lines that were executed. -/
  matched : List String
  /-- How many lines are expected. -/
  total : Nat
  /-- The share of matched lines in percent. -/
  percentage : Nat
  /-- The percentage from which on the step is passed. -/
  passingScore : Int
deriving DecidableEq, Repr

namespace StepScore

/-- Whether the step is passed. -/
def passed (s : StepScore) : Bool :=
  decide (0 < s.total) && decide (s.passingScore ≤ s.percentage)

/-- The score of expected lines. -/
def of (expected : List String) (t : Tracker) (passingScore : Int) : StepScore where
  matched := t.matched expected
  total := expected.length
  percentage := (t.matched expected).length * 100 / expected.length
  passingScore

end StepScore

end ClusterTutor
