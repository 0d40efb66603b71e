import ClusterTutor.Data.Field
import ClusterTutor.Pattern.Matcher
import ClusterTutor.Pattern.Reader

/-!
# Hints

A step of a lab has hints of growing levels. A hint becomes available when its trigger
is met: at once, after some time, after some failed attempts, or after a command of a
certain form was typed. It is held back while a command of an unwanted form was typed.

Triggers are kept as they stand in the content. What they are compared with is checked
only when it is needed, so a threshold that is no number is a fault of the evaluation
and not of the hint.
-/

namespace ClusterTutor

/-- A pattern with the text it was read from. -/
structure WatchPattern where
  /-- The text. -/
  source : String
  /-- The pattern. -/
  pattern : Pattern
deriving DecidableEq, Repr

namespace WatchPattern

/-- Reads a pattern from a text. -/
def ofText (s : String) : Except Defect WatchPattern :=
  match Pattern.read s with
  | .ok pattern => .ok ⟨s, pattern⟩
  | .error .invalid => .error .invalidPattern
  | .error .tooLarge => .error .patternTooLarge
  | .error .numeralTooLong => .error .numeralTooLong
  | .error .twoAlphabets => .error .patternOfTwoAlphabets

/-- Reads a pattern from a value. -/
def ofValue : Value → Except Defect WatchPattern
  | .string s => ofText s
  | _ => .error .patternNotText

/-- Whether a pattern matches any of some command lines. -/
def matchesAny (p : WatchPattern) (lines : List String) : Bool :=
  lines.any p.pattern.search

end WatchPattern

/-- When a hint becomes available. -/
structure HintTrigger where
  /-- The kind of trigger. -/
  kind : Value := .string "manual"
  /-- The time after which it is met. -/
  seconds : Value := .null
  /-- The number of failed attempts after which it is met. -/
  count : Value := .null
  /-- The form of command after which it is met. -/
  pattern : Option WatchPattern := none
deriving Repr

/-- A hint. -/
structure Hint where
  /-- The name of the hint. -/
  id : String
  /-- How much it gives away: 1 is gentle, 3 is very specific. -/
  level : Int
  /-- What it says. -/
  message : String
  /-- When it becomes available. -/
  trigger : HintTrigger := {}
  /-- Forms of commands that hold it back. -/
  heldBackBy : List WatchPattern := []
deriving Repr

namespace Hint

/-! ### Reading hints -/

/-- Reads a trigger. -/
def triggerOf (v : Value) : Except Defect HintTrigger := do
  let kind := (← v.optional "type").getD (.string "manual")
  let seconds := (← v.optional "seconds").getD .null
  let count := (← v.optional "count").getD .null
  let pattern ← match ← v.optional "pattern" with
    | some p => if p.truthy then (WatchPattern.ofValue p).map some else pure none
    | none => pure none
  return { kind, seconds, count, pattern }

/-- Reads the hint at a position of a list. A text is a hint that is available at once,
and its level is given by its position. -/
def ofValue (index : Nat) (v : Value) : Except Defect Hint :=
  match v with
  | .string s => .ok { id := s!"hint-{index}", level := min (index + 1) 3, message := s }
  | v => do
    let trigger ← triggerOf ((← v.optional "trigger").getD (.object []))
    let id ← v.textField "id" s!"hint-{index}"
    let level ← ((← v.optional "level").getD (.int 1)).toInt
    let message ← (← v.required "message").toText
    let heldBackBy ← (← v.partsOfField "commands_not_executed").mapM WatchPattern.ofValue
    return { id, level, message, trigger, heldBackBy }

/-- Reads the hints of a list from a position on. -/
def listFrom (index : Nat) : List Value → Except Defect (List Hint)
  | [] => .ok []
  | v :: vs => do
    let h ← ofValue index v
    return h :: (← listFrom (index + 1) vs)

/-- Reads the hints of a step. -/
def listOf (v : Value) : Except Defect (List Hint) := do
  listFrom 0 (← v.parts)

end Hint

end ClusterTutor
