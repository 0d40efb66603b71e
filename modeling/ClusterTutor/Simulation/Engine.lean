import ClusterTutor.Catalogue.Basic
import ClusterTutor.Simulation.Invocation
import ClusterTutor.Simulation.State

/-!
# The engine

The engine keeps the simulated state of one session. A command is run in two steps:
first it is *checked* against the privilege of the actor and the state it needs, and
then, if the check allowed it, it is *executed*. What was allowed is remembered as the
pending approval: an execution must be in the same state, of the same command, by the
same actor, with an invocation that says the same. Executing uses the approval up, and
going back in history makes it void; a check that denies changes nothing.

Every execution pushes the state before it, together with the actor, on the history;
when there are too many entries, the oldest one is dropped. Undoing pops the newest one.

An approved execution can still fail: what is written to the actor has to have a text,
and a number with too many digits has none. By then the approval is used up.

| call | state | history | approval |
|---|---|---|---|
| check, allowed | kept | kept | set |
| check, denied | kept | kept | kept |
| execute, approved | overlaid with the delta | pushed | cleared |
| execute, approved, with a number that is too long for the actor | kept | kept | cleared |
| execute, not approved | kept | kept | kept |
| undo | restored | popped | cleared |
| undo of nothing | kept | kept | kept |
-/

namespace ClusterTutor

/-- Why a check denies an invocation. -/
inductive Denial where
  /-- The command is not defined. -/
  | unknownCommand (command : String)
  /-- The actor would have to be root. -/
  | privilegeRequired (command : String)
  /-- A state domain that the command reads does not exist. -/
  | missingDomain (command domain : String)
deriving DecidableEq, Repr

namespace Denial

/-- The code of a reason. -/
def code : Denial → String
  | .unknownCommand _ => "unknown_command"
  | .privilegeRequired _ => "privilege_required"
  | .missingDomain _ _ => "missing_state_domain"

/-- The message for the learner. -/
def message : Denial → String
  | .unknownCommand command => s!"{command}: command not found"
  | .privilegeRequired command => s!"{command}: this operation requires root privileges"
  | .missingDomain command domain => s!"{command}: no {domain} available yet"

end Denial

/-- Why nothing was executed. -/
inductive ExecutionFault where
  /-- The command is not defined. -/
  | unknownCommand (command : String)
  /-- No check has approved of the execution. -/
  | notApproved (command : String)
  /-- A number written to the actor has too many digits. -/
  | numberTooLong
deriving DecidableEq, Repr

/-- The message about what was not executed, where there is one. -/
def ExecutionFault.message? : ExecutionFault → Option String
  | .unknownCommand command => some command
  | .notApproved command =>
    some s!"execute({Text.quoted command}) called without an approved can_execute"
  | .numberTooLong => none

/-- What an execution leads to. -/
structure Execution where
  /-- The actor afterwards. -/
  context : ExecutionContext
  /-- The state afterwards. -/
  state : Snapshot
  /-- What was written. -/
  delta : Snapshot

/-- What a check has approved. -/
structure Approval where
  /-- The state in which it was checked. -/
  state : Snapshot
  /-- The actor. -/
  context : ExecutionContext
  /-- The command. -/
  command : String
  /-- The invocation. -/
  invocation : Invocation

/-- Whether an approval is for an execution in a state. -/
def Approval.covers (a : Approval) (state : Snapshot) (context : ExecutionContext)
    (command : String) (invocation : Invocation) : Bool :=
  decide (a.state = state) && decide (a.context = context) && a.command == command &&
    a.invocation.same invocation

/-- A list, the newest entry first, without its oldest one if it has more entries than a
limit. -/
def dropOldest {α : Type} (limit : Int) (entries : List α) : List α :=
  if limit < entries.length then entries.dropLast else entries

/-- The simulated machines of one session. -/
structure Engine where
  /-- The commands that can be run. -/
  catalogue : Catalogue
  /-- The state. -/
  state : Snapshot
  /-- The states and actors before the latest executions, the newest first. -/
  history : List (Snapshot × ExecutionContext)
  /-- How many of them are kept. -/
  limit : Int
  /-- What the latest check that allowed something has approved. -/
  approval : Option Approval

/-- The fields of an effect for which an invocation supplies values. -/
def Effect.written (e : Effect) (i : Invocation) : Fields :=
  .ofList (e.fields.filterMap fun f => (i.supplied? e.domain f).map fun v => (.text f, v))

namespace Definition

/-- What an invocation writes, the writes to the context included. -/
def writtenBy (d : Definition) (i : Invocation) : Snapshot :=
  (d.writes.filter (·.applies i.flags.keys)).foldl
    (fun s e => if (e.written i).isEmpty then s else s.overlayDomain e.domain (e.written i)) .empty

/-- The first domain that an invocation reads and that does not exist. -/
def missingDomain? (d : Definition) (i : Invocation) (s : Snapshot) : Option String :=
  (d.reads.find? fun e => e.domain != ExecutionContext.domain && e.applies i.flags.keys &&
    !s.contains e.domain).map Effect.domain

/-- Why an invocation is denied to an actor in a state, if it is. -/
def denial? (d : Definition) (context : ExecutionContext) (i : Invocation) (s : Snapshot) :
    Option Denial :=
  if d.needsRoot i.flags.keys && !context.isElevated then some (.privilegeRequired d.command)
  else (d.missingDomain? i s).map (.missingDomain d.command)

/-- What executing an invocation leads to, unless it writes something to the actor that
cannot be shown. -/
def execution? (d : Definition) (context : ExecutionContext) (i : Invocation) (s : Snapshot) :
    Option Execution := do
  let written := d.writtenBy i
  let delta := written.erase ExecutionContext.domain
  let context ← (written.get? ExecutionContext.domain).elim (some context) context.write?
  return { context, state := s.overlay delta, delta }

end Definition

namespace Engine

/-- An engine before anything was run. -/
def start (catalogue : Catalogue) (state : Snapshot) (limit : Int) : Engine where
  catalogue
  state
  history := []
  limit
  approval := none

/-- The states in the history, the oldest first. -/
def pastStates (e : Engine) : List Snapshot :=
  (e.history.map Prod.fst).reverse

/-- Why an invocation is denied, if it is. -/
def denial? (e : Engine) (context : ExecutionContext) (command : String) (i : Invocation) :
    Option Denial :=
  match e.catalogue.get? command with
  | none => some (.unknownCommand command)
  | some d => d.denial? context i e.state

/-- Checks an invocation. -/
def check (e : Engine) (context : ExecutionContext) (command : String) (i : Invocation) :
    Engine × Option Denial :=
  match e.denial? context command i with
  | some denial => (e, some denial)
  | none => ({ e with approval := some ⟨e.state, context, command, i⟩ }, none)

/-- Whether an execution is approved. -/
def approved (e : Engine) (context : ExecutionContext) (command : String) (i : Invocation) : Bool :=
  e.approval.any (·.covers e.state context command i)

/-- The history with one more entry, and without its oldest one if there are too many. -/
def push (e : Engine) (context : ExecutionContext) : List (Snapshot × ExecutionContext) :=
  dropOldest e.limit ((e.state, context) :: e.history)

/-- The engine after an execution by an actor. -/
def after (e : Engine) (context : ExecutionContext) (x : Execution) : Engine :=
  { e with state := x.state, history := e.push context, approval := none }

/-- The engine with its approval used up. -/
def spent (e : Engine) : Engine := { e with approval := none }

/-- Runs an invocation that is approved. The approval is used up, also if the execution
fails. -/
def perform (e : Engine) (d : Definition) (context : ExecutionContext) (i : Invocation) :
    Engine × Except ExecutionFault Execution :=
  match d.execution? context i e.state with
  | some x => (e.after context x, .ok x)
  | none => (e.spent, .error .numberTooLong)

/-- Executes what has been approved. -/
def execute (e : Engine) (context : ExecutionContext) (command : String) (i : Invocation) :
    Engine × Except ExecutionFault Execution :=
  match e.catalogue.get? command with
  | none => (e, .error (.unknownCommand command))
  | some d =>
    if e.approved context command i then e.perform d context i
    else (e, .error (.notApproved command))

/-- Checks an invocation and executes it if it is allowed. -/
def attempt (e : Engine) (context : ExecutionContext) (command : String) (i : Invocation) :
    Engine × Except ExecutionFault (Except Denial Execution) :=
  match e.check context command i with
  | (e, some denial) => (e, .ok (.error denial))
  | (e, none) =>
    let (e, outcome) := e.execute context command i
    (e, outcome.map .ok)

/-- Goes back to the newest state of the history, and answers who was acting then. -/
def undo (e : Engine) : Engine × Option ExecutionContext :=
  match e.history with
  | [] => (e, none)
  | (state, context) :: history => ({ e with state, history, approval := none }, some context)

end Engine

end ClusterTutor
