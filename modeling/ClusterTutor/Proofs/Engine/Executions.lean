import ClusterTutor.Proofs.Engine.Approval

/-!
# Executions in a run

Executions and attempts are two ways to the same thing. Whenever a run of a fresh engine
has executed an invocation, the invocation was allowed in the state of that moment, and
what came of it is what the definition of the command says
(`ClusterTutor.Engine.exists_execution_of_executes`). Statements on everything that a run
has ever written start here.
-/

namespace ClusterTutor

/-- The exchanges that have executed an invocation of a command, with what came of it. -/
inductive Exchange.Executes : Exchange → ExecutionContext → String → Invocation → Execution → Prop
  /-- An execution of what had been approved. -/
  | execute (context : ExecutionContext) (command : String) (i : Invocation) (x : Execution) :
    Executes ⟨.execute context command i, .executed (.ok x)⟩ context command i x
  /-- An attempt that was allowed. -/
  | attempt (context : ExecutionContext) (command : String) (i : Invocation) (x : Execution) :
    Executes ⟨.attempt context command i, .attempted (.ok (.ok x))⟩ context command i x

namespace Engine

variable {e : Engine} {context : ExecutionContext} {command : String} {i : Invocation}
  {x : Execution}

/-- What one call executes comes of the definition, and the engine goes on with it. -/
theorem Step.performed {c : EngineCall} {r : Engine × EngineAnswer} (hstep : e.Step c r)
    (hx : Exchange.Executes ⟨c, r.2⟩ context command i x) :
    ∃ d, e.catalogue.get? command = some d ∧ d.execution? context i e.state = some x ∧
      r.1 = e.after context x := by
  cases hstep with
  | executed hd _ hexec =>
    cases hx
    exact ⟨_, hd, hexec, rfl⟩
  | attempted hd _ hexec =>
    cases hx
    exact ⟨_, hd, hexec, rfl⟩
  | _ => cases hx

/-- What one call executes is allowed and is what the definition says. -/
theorem Step.exists_execution {c : EngineCall} {r : Engine × EngineAnswer} (hstep : e.Step c r)
    (h : e.ApprovalHolds) (hx : Exchange.Executes ⟨c, r.2⟩ context command i x) :
    ∃ d, e.catalogue.get? command = some d ∧ d.denial? context i e.state = none ∧
      d.execution? context i e.state = some x := by
  cases hstep with
  | executed hd happroved hexec =>
    cases hx
    exact ⟨_, hd, (denial?_of_get? hd).symm.trans (h.allowed_of_approved happroved), hexec⟩
  | attempted hd hallowed hexec =>
    cases hx
    exact ⟨_, hd, hallowed, hexec⟩
  | _ => cases hx

/-- **Whatever a run has executed was allowed** when it was executed, and came out as its
definition says. -/
theorem exists_execution_of_executes (h : e.ApprovalHolds) (calls : List EngineCall) {ex : Exchange}
    (hmem : ex ∈ (e.run calls).log) (hx : ex.Executes context command i x) :
    ∃ d s, e.catalogue.get? command = some d ∧ d.denial? context i s = none ∧
      d.execution? context i s = some x := by
  induction calls using List.reverseRecOn with
  | nil => simp at hmem
  | append_singleton calls c ih =>
    rw [run_concat] at hmem
    rcases List.mem_cons.1 hmem with rfl | hmem
    · obtain ⟨d, hd, hallowed, hexec⟩ := (step_respond _ c).exists_execution (h.run calls) hx
      exact ⟨d, (e.run calls).engine.state, by simpa using hd, hallowed, hexec⟩
    · exact ih hmem

end Engine

end ClusterTutor
