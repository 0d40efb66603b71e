import ClusterTutor.Proofs.Data.Except
import ClusterTutor.Proofs.Data.Same
import ClusterTutor.Proofs.Privilege.Flags
import ClusterTutor.Simulation.Engine
import Mathlib.Data.List.Induction

/-!
# Calls of the engine

An engine is used by calls, in any order and with any arguments. This module writes down
a whole use of an engine as a *run*: the engine as the calls have left it, and the log of
what was called and answered, the latest first. What is proved of all runs is proved by
induction on the calls, from what one call does.

What one call can do is said once here (`ClusterTutor.Engine.Step`); the modules on
approvals, privilege and history go through its cases and do not open the engine again. An
attempt is a check followed, if it allows, by an execution, which is never refused
(`ClusterTutor.Engine.attempt_of_allowed`). An execution that is not refused has one way to
fail: the actor is written a value that cannot be shown
(`ClusterTutor.Engine.execute_of_approved_eq`).
-/

namespace ClusterTutor

/-- A call of an engine. -/
inductive EngineCall where
  /-- Check an invocation of a command. -/
  | check (context : ExecutionContext) (command : String) (invocation : Invocation)
  /-- Execute what has been approved. -/
  | execute (context : ExecutionContext) (command : String) (invocation : Invocation)
  /-- Check, and execute what is allowed. -/
  | attempt (context : ExecutionContext) (command : String) (invocation : Invocation)
  /-- Go back in history. -/
  | undo

/-- What an engine answers to a call. -/
inductive EngineAnswer where
  /-- Whether an invocation was denied. -/
  | checked (denial : Option Denial)
  /-- What was executed, or why nothing was. -/
  | executed (outcome : Except ExecutionFault Execution)
  /-- What was executed, or why it was denied, unless the execution failed. -/
  | attempted (outcome : Except ExecutionFault (Except Denial Execution))
  /-- Who was acting in the restored state, if one was restored. -/
  | undone (context : Option ExecutionContext)

/-- A call with its answer. -/
structure Exchange where
  /-- What was called. -/
  call : EngineCall
  /-- What was answered. -/
  answer : EngineAnswer

/-- An engine that has been called. -/
structure EngineRun where
  /-- The engine after the calls. -/
  engine : Engine
  /-- The calls and answers, the latest first. -/
  log : List Exchange

namespace Engine

/-- The engine after a call, and its answer. -/
def respond (e : Engine) : EngineCall → Engine × EngineAnswer
  | .check context command i =>
    ((e.check context command i).1, .checked (e.check context command i).2)
  | .execute context command i =>
    ((e.execute context command i).1, .executed (e.execute context command i).2)
  | .attempt context command i =>
    ((e.attempt context command i).1, .attempted (e.attempt context command i).2)
  | .undo => (e.undo.1, .undone e.undo.2)

end Engine

/-- A run with one more call. -/
def EngineRun.call (r : EngineRun) (c : EngineCall) : EngineRun :=
  ⟨(r.engine.respond c).1, ⟨c, (r.engine.respond c).2⟩ :: r.log⟩

/-- The run of an engine through calls. -/
def Engine.run (e : Engine) (calls : List EngineCall) : EngineRun :=
  calls.foldl EngineRun.call ⟨e, []⟩

namespace Engine

variable {e e' : Engine} {context : ExecutionContext} {command : String} {i j : Invocation}
  {d : Definition} {x : Execution} {fault : ExecutionFault}

@[simp] theorem run_nil (e : Engine) : e.run [] = ⟨e, []⟩ := rfl

@[simp] theorem run_concat (e : Engine) (calls : List EngineCall) (c : EngineCall) :
    e.run (calls ++ [c]) = (e.run calls).call c := by
  simp [run]

/-! ### Checks -/

theorem check_of_denied {denial : Denial} (h : e.denial? context command i = some denial) :
    e.check context command i = (e, some denial) := by
  rw [check, h]

theorem check_of_allowed (h : e.denial? context command i = none) :
    e.check context command i =
      ({ e with approval := some ⟨e.state, context, command, i⟩ }, none) := by
  rw [check, h]

/-- What a check answers is the denial, if there is one. -/
@[simp] theorem check_snd (e : Engine) (context : ExecutionContext) (command : String)
    (i : Invocation) : (e.check context command i).2 = e.denial? context command i := by
  cases h : e.denial? context command i with
  | none => rw [check_of_allowed h]
  | some denial => rw [check_of_denied h]

/-- A decision looks at the flags of an invocation and at nothing else of it. -/
theorem denial?_congr (h : ∀ f, f ∈ i.flags.keys ↔ f ∈ j.flags.keys) :
    e.denial? context command i = e.denial? context command j := by
  unfold denial?
  cases e.catalogue.get? command with
  | none => rfl
  | some d =>
    simp only [Definition.denial?, Definition.missingDomain?, d.needsRoot_congr h,
      Effect.applies_congr _ h]

/-! ### Executions -/

theorem perform_of_some (h : d.execution? context i e.state = some x) :
    e.perform d context i = (e.after context x, .ok x) := by
  rw [perform, h]

theorem perform_of_none (h : d.execution? context i e.state = none) :
    e.perform d context i = (e.spent, .error .numberTooLong) := by
  rw [perform, h]

/-- Running an invocation succeeds if what it leads to can be told. -/
theorem perform_eq_ok_iff :
    e.perform d context i = (e', .ok x) ↔
      d.execution? context i e.state = some x ∧ e' = e.after context x := by
  cases h : d.execution? context i e.state with
  | none => simp [perform_of_none h]
  | some y =>
    rw [perform_of_some h, Prod.mk.injEq, Except.ok.injEq, Option.some.injEq]
    constructor
    · rintro ⟨rfl, rfl⟩
      exact ⟨rfl, rfl⟩
    · rintro ⟨rfl, rfl⟩
      exact ⟨rfl, rfl⟩

/-- Running an invocation reads no approval. -/
theorem perform_withApproval (e : Engine) (a : Option Approval) (d : Definition)
    (context : ExecutionContext) (i : Invocation) :
    { e with approval := a }.perform d context i = e.perform d context i := by
  unfold perform
  cases d.execution? context i e.state <;> rfl

/-- An execution of a known command that is approved is performed. -/
theorem execute_of_approved_eq (hd : e.catalogue.get? command = some d)
    (happroved : e.approved context command i = true) :
    e.execute context command i = e.perform d context i := by
  simp [execute, hd, happroved]

/-- An execution of an unknown command is refused. -/
theorem execute_of_unknown (hd : e.catalogue.get? command = none) :
    e.execute context command i = (e, .error (.unknownCommand command)) := by
  simp [execute, hd]

/-- An execution that is not approved is refused. -/
theorem execute_of_not_approved (hd : e.catalogue.get? command = some d)
    (happroved : e.approved context command i = false) :
    e.execute context command i = (e, .error (.notApproved command)) := by
  simp [execute, hd, happroved]

/-- **An execution succeeds** when its command is known, the pending approval covers it, and
what it leads to can be told. -/
theorem execute_eq_ok_iff :
    e.execute context command i = (e', .ok x) ↔
      ∃ d, e.catalogue.get? command = some d ∧ e.approved context command i = true ∧
        d.execution? context i e.state = some x ∧ e' = e.after context x := by
  cases hd : e.catalogue.get? command with
  | none => simp [execute_of_unknown hd]
  | some d =>
    cases happroved : e.approved context command i with
    | false => simp [execute_of_not_approved hd happroved]
    | true =>
      rw [execute_of_approved_eq hd happroved, perform_eq_ok_iff]
      simp

/-! ### Attempts -/

theorem attempt_of_denied {denial : Denial} (h : e.denial? context command i = some denial) :
    e.attempt context command i = (e, .ok (.error denial)) := by
  rw [attempt, check_of_denied h]

/-- A check that allows approves of what it has checked. -/
theorem approved_check (h : e.denial? context command i = none) :
    (e.check context command i).1.approved context command i = true := by
  simp [check_of_allowed h, approved, Approval.covers, Invocation.same_self]

/-- What is allowed is a known command. -/
theorem exists_of_allowed (h : e.denial? context command i = none) :
    ∃ d, e.catalogue.get? command = some d ∧ d.denial? context i e.state = none := by
  unfold denial? at h
  cases hd : e.catalogue.get? command with
  | none => simp [hd] at h
  | some d => exact ⟨d, rfl, by simpa [hd] using h⟩

theorem denial?_of_get? (hd : e.catalogue.get? command = some d) :
    e.denial? context command i = d.denial? context i e.state := by
  simp [denial?, hd]

/-- **An attempt that is allowed is a check and the execution it approves.** That
execution is not refused, since what was checked is the same as itself: its command is
performed. -/
theorem attempt_of_allowed (hd : e.catalogue.get? command = some d)
    (h : d.denial? context i e.state = none) :
    (e.check context command i).1.execute context command i = e.perform d context i ∧
      e.attempt context command i =
        ((e.perform d context i).1, (e.perform d context i).2.map .ok) := by
  have hallowed : e.denial? context command i = none := (denial?_of_get? hd).trans h
  have hexecute : (e.check context command i).1.execute context command i =
      e.perform d context i := by
    have hknown : (e.check context command i).1.catalogue.get? command = some d := by
      rw [check_of_allowed hallowed]
      exact hd
    rw [execute_of_approved_eq hknown (approved_check hallowed), check_of_allowed hallowed,
      perform_withApproval]
  refine ⟨hexecute, ?_⟩
  rw [check_of_allowed hallowed] at hexecute
  rw [attempt, check_of_allowed hallowed]
  simp only [hexecute]

/-- An attempt at a known command is denied, or performs the command. -/
theorem attempt_of_get? (hd : e.catalogue.get? command = some d) :
    e.attempt context command i =
      match d.denial? context i e.state with
      | some denial => (e, .ok (.error denial))
      | none => ((e.perform d context i).1, (e.perform d context i).2.map .ok) := by
  cases h : d.denial? context i e.state with
  | some denial => exact attempt_of_denied ((denial?_of_get? hd).trans h)
  | none => exact (attempt_of_allowed hd h).2

/-- An attempt that executes something was allowed, and performs its command. -/
theorem attempt_eq_ok_iff :
    e.attempt context command i = (e', .ok (.ok x)) ↔
      ∃ d, e.catalogue.get? command = some d ∧ d.denial? context i e.state = none ∧
        d.execution? context i e.state = some x ∧ e' = e.after context x := by
  cases hd : e.catalogue.get? command with
  | none =>
    have hdenied : e.denial? context command i = some (.unknownCommand command) := by
      simp [denial?, hd]
    simp [attempt_of_denied hdenied]
  | some d =>
    rw [attempt_of_get? hd]
    cases h : d.denial? context i e.state with
    | some denial => simp [h]
    | none =>
      have hperform : ((e.perform d context i).1 = e' ∧ (e.perform d context i).2 = .ok x) ↔
          d.execution? context i e.state = some x ∧ e' = e.after context x := by
        rw [← perform_eq_ok_iff, Prod.ext_iff]
      simp [map_eq_ok, hperform, h]

/-- An attempt that is denied leaves the engine as it is. -/
theorem attempt_eq_denied_iff {denial : Denial} :
    e.attempt context command i = (e', .ok (.error denial)) ↔
      e.denial? context command i = some denial ∧ e' = e := by
  cases h : e.denial? context command i with
  | some denial' =>
    rw [attempt_of_denied h]
    simp [eq_comm, and_comm]
  | none =>
    obtain ⟨d, hd, hallowed⟩ := exists_of_allowed h
    rw [(attempt_of_allowed hd hallowed).2, Prod.mk.injEq, map_eq_ok]
    simp

/-! ### What a call can do -/

/-- **What a call can do to an engine**, and what it answers then. -/
inductive Step (e : Engine) : EngineCall → Engine × EngineAnswer → Prop
  /-- A check denies. -/
  | denied {context : ExecutionContext} {command : String} {i : Invocation} {denial : Denial} :
    e.denial? context command i = some denial →
    Step e (.check context command i) (e, .checked (some denial))
  /-- A check allows, and leaves an approval. -/
  | approved {context : ExecutionContext} {command : String} {i : Invocation} :
    e.denial? context command i = none →
    Step e (.check context command i)
      ({ e with approval := some ⟨e.state, context, command, i⟩ }, .checked none)
  /-- An execution of an unknown command is refused. -/
  | unknown {context : ExecutionContext} {command : String} {i : Invocation} :
    e.catalogue.get? command = none →
    Step e (.execute context command i) (e, .executed (.error (.unknownCommand command)))
  /-- An execution that is not approved is refused. -/
  | refused {context : ExecutionContext} {command : String} {i : Invocation} {d : Definition} :
    e.catalogue.get? command = some d → e.approved context command i = false →
    Step e (.execute context command i) (e, .executed (.error (.notApproved command)))
  /-- What was approved is executed. -/
  | executed {context : ExecutionContext} {command : String} {i : Invocation} {d : Definition}
      {x : Execution} :
    e.catalogue.get? command = some d → e.approved context command i = true →
    d.execution? context i e.state = some x →
    Step e (.execute context command i) (e.after context x, .executed (.ok x))
  /-- What was approved cannot be executed. -/
  | failed {context : ExecutionContext} {command : String} {i : Invocation} {d : Definition} :
    e.catalogue.get? command = some d → e.approved context command i = true →
    d.execution? context i e.state = none →
    Step e (.execute context command i) (e.spent, .executed (.error .numberTooLong))
  /-- An attempt is denied. -/
  | prevented {context : ExecutionContext} {command : String} {i : Invocation} {denial : Denial} :
    e.denial? context command i = some denial →
    Step e (.attempt context command i) (e, .attempted (.ok (.error denial)))
  /-- An attempt is allowed and executed. -/
  | attempted {context : ExecutionContext} {command : String} {i : Invocation} {d : Definition}
      {x : Execution} :
    e.catalogue.get? command = some d → d.denial? context i e.state = none →
    d.execution? context i e.state = some x →
    Step e (.attempt context command i) (e.after context x, .attempted (.ok (.ok x)))
  /-- An attempt is allowed and cannot be executed. -/
  | attemptFailed {context : ExecutionContext} {command : String} {i : Invocation}
      {d : Definition} :
    e.catalogue.get? command = some d → d.denial? context i e.state = none →
    d.execution? context i e.state = none →
    Step e (.attempt context command i) (e.spent, .attempted (.error .numberTooLong))
  /-- There is nothing to undo. -/
  | bottom : e.history = [] → Step e .undo (e, .undone none)
  /-- The newest state of the history is restored. -/
  | restored {state : Snapshot} {context : ExecutionContext}
      {history : List (Snapshot × ExecutionContext)} :
    e.history = (state, context) :: history →
    Step e .undo ({ e with state, history, approval := none }, .undone (some context))

theorem step_execute (e : Engine) (context : ExecutionContext) (command : String)
    (i : Invocation) :
    e.Step (.execute context command i) (e.respond (.execute context command i)) := by
  rw [respond]
  cases hd : e.catalogue.get? command with
  | none =>
    rw [execute_of_unknown hd]
    exact .unknown hd
  | some d =>
    cases happroved : e.approved context command i with
    | false =>
      rw [execute_of_not_approved hd happroved]
      exact .refused hd happroved
    | true =>
      rw [execute_of_approved_eq hd happroved]
      cases hx : d.execution? context i e.state with
      | some x =>
        rw [perform_of_some hx]
        exact .executed hd happroved hx
      | none =>
        rw [perform_of_none hx]
        exact .failed hd happroved hx

theorem step_attempt (e : Engine) (context : ExecutionContext) (command : String)
    (i : Invocation) :
    e.Step (.attempt context command i) (e.respond (.attempt context command i)) := by
  rw [respond]
  cases h : e.denial? context command i with
  | some denial =>
    rw [attempt_of_denied h]
    exact .prevented h
  | none =>
    obtain ⟨d, hd, hallowed⟩ := exists_of_allowed h
    rw [(attempt_of_allowed hd hallowed).2]
    cases hx : d.execution? context i e.state with
    | some x =>
      rw [perform_of_some hx]
      exact .attempted hd hallowed hx
    | none =>
      rw [perform_of_none hx]
      exact .attemptFailed hd hallowed hx

/-- **Responding to a call does one of these.** -/
theorem step_respond (e : Engine) (c : EngineCall) : e.Step c (e.respond c) := by
  cases c with
  | check context command i =>
    cases h : e.denial? context command i with
    | some denial => simpa only [respond, check_of_denied h] using Step.denied h
    | none => simpa only [respond, check_of_allowed h] using Step.approved h
  | execute context command i => exact step_execute e context command i
  | attempt context command i => exact step_attempt e context command i
  | undo =>
    cases h : e.history with
    | nil => simpa only [respond, undo, h] using Step.bottom h
    | cons p history => simpa only [respond, undo, h] using Step.restored h

/-- **What holds of an engine and is kept by each call** holds after every run. -/
theorem run_induction {P : Engine → Prop} (h : P e)
    (hstep : ∀ {f : Engine} {c : EngineCall} {r : Engine × EngineAnswer}, P f → f.Step c r → P r.1)
    (calls : List EngineCall) : P (e.run calls).engine := by
  induction calls using List.reverseRecOn with
  | nil => exact h
  | append_singleton calls c ih =>
    rw [run_concat]
    exact hstep ih (step_respond _ c)

/-- No call changes the definitions. -/
theorem Step.catalogue_eq {c : EngineCall} {r : Engine × EngineAnswer} (h : e.Step c r) :
    r.1.catalogue = e.catalogue := by
  cases h <;> rfl

@[simp] theorem catalogue_run (e : Engine) (calls : List EngineCall) :
    (e.run calls).engine.catalogue = e.catalogue :=
  run_induction (P := fun f => f.catalogue = e.catalogue) rfl
    (fun ih hstep => hstep.catalogue_eq.trans ih) calls

end Engine

end ClusterTutor
