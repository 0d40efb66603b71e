import ClusterTutor.Proofs.Engine.Executions

/-!
# The history is a stack with a limit

What an engine has been through is kept as a stack of states, each with the actor for whom it
was left. Executing pushes, undoing pops, and nothing else touches the stack
(`ClusterTutor.Exchange.after`). How many entries are kept is a number given to the engine; a
negative one counts as zero, and then nothing is ever kept.

Two things make the stack of an engine more than a list that is cut now and then.

* **It never has an entry too many.** A push drops at most one entry, the oldest one. That is
  as good as a cut to the limit (`ClusterTutor.Engine.WithinLimit.push_eq_take`), whatever the
  limit.
* **What fell out does not come back.** After some executions as many of them can be undone as
  there is room for, and not one more, even if more of them lie further back
  (`ClusterTutor.Engine.history_refines_stack`).
-/

namespace ClusterTutor

/-! ### Stacks of past states -/

/-- A state, and the states and actors before it that can be gone back to, the newest first. -/
@[ext] structure PastStack where
  /-- The state. -/
  state : Snapshot
  /-- What was before. -/
  past : List (Snapshot × ExecutionContext)

namespace PastStack

/-- Goes on to another state, and keeps the newest entries of what was before. -/
def push (capacity : Nat) (context : ExecutionContext) (next : Snapshot) (p : PastStack) :
    PastStack where
  state := next
  past := ((p.state, context) :: p.past).take capacity

/-- Goes back to the newest entry, and answers who was acting then. -/
def pop (p : PastStack) : PastStack × Option ExecutionContext :=
  match p.past with
  | [] => (p, none)
  | (state, context) :: past => (⟨state, past⟩, some context)

end PastStack

/-- **Dropping one entry is enough** for a list with one entry too many. -/
theorem dropOldest_cons_eq_take {α : Type} {limit : Int} {xs : List α}
    (h : xs.length ≤ limit.toNat) (x : α) :
    dropOldest limit (x :: xs) = (x :: xs).take limit.toNat := by
  unfold dropOldest
  split
  · rename_i hlt
    -- the list is full, or the limit is negative and the list is empty
    have hfull : limit.toNat = (x :: xs).length - 1 := by
      rw [List.length_cons] at hlt ⊢
      omega
    rw [List.dropLast_eq_take, hfull]
  · rename_i hle
    refine (List.take_of_length_le ?_).symm
    omega

theorem mem_of_mem_dropOldest {α : Type} {limit : Int} {xs : List α} {x : α}
    (h : x ∈ dropOldest limit xs) : x ∈ xs := by
  unfold dropOldest at h
  split at h
  · exact List.dropLast_subset xs h
  · exact h

/-- Cutting a list before something is put in front of it makes no difference if it is cut
again. -/
theorem take_cons_take {α : Type} (n : Nat) (x : α) (xs : List α) :
    (x :: xs.take n).take n = (x :: xs).take n := by
  cases n with
  | zero => rfl
  | succ n => simp [List.take_take]

namespace Exchange

/-- Who executed something in an exchange, and what came of it. -/
def execution? : Exchange → Option (ExecutionContext × Execution)
  | ⟨.execute context _ _, .executed (.ok x)⟩ => some (context, x)
  | ⟨.attempt context _ _, .attempted (.ok (.ok x))⟩ => some (context, x)
  | _ => none

/-- Whether an exchange has restored a state. -/
def restores : Exchange → Bool
  | ⟨_, .undone (some _)⟩ => true
  | _ => false

/-- **The stack after an exchange**: what is executed is pushed, undoing pops, and all else
leaves the stack alone. -/
def after (capacity : Nat) : Exchange → PastStack → PastStack
  | ⟨.execute context _ _, .executed (.ok x)⟩, p => p.push capacity context x.state
  | ⟨.attempt context _ _, .attempted (.ok (.ok x))⟩, p => p.push capacity context x.state
  | ⟨.undo, _⟩, p => p.pop.1
  | _, p => p

end Exchange

/-- What a log has executed, the latest first, and for whom. -/
def executionsOf (log : List Exchange) : List (ExecutionContext × Execution) :=
  log.filterMap Exchange.execution?

theorem executionsOf_cons (ex : Exchange) (log : List Exchange) :
    executionsOf (ex :: log) = ex.execution?.toList ++ executionsOf log := by
  cases h : ex.execution? with
  | none => simp [executionsOf, h]
  | some x => simp [executionsOf, h]

/-- The states that executions went through, the latest first, back to the one they began
with. -/
def statesFrom (s : Snapshot) (xs : List (ExecutionContext × Execution)) : List Snapshot :=
  xs.map (fun x => x.2.state) ++ [s]

namespace Engine

variable {e : Engine} {context : ExecutionContext} {c : EngineCall} {r : Engine × EngineAnswer}

/-- The state of an engine with its history. -/
def pastStack (e : Engine) : PastStack := ⟨e.state, e.history⟩

/-! ### Never an entry too many -/

theorem Step.limit_eq (h : e.Step c r) : r.1.limit = e.limit := by
  cases h <;> rfl

@[simp] theorem limit_run (e : Engine) (calls : List EngineCall) :
    (e.run calls).engine.limit = e.limit :=
  run_induction (P := fun f => f.limit = e.limit) rfl
    (fun ih hstep => hstep.limit_eq.trans ih) calls

/-- **The history is within the limit**: it has no more entries than the limit says. -/
def WithinLimit (e : Engine) : Prop := e.history.length ≤ e.limit.toNat

theorem withinLimit_start (catalogue : Catalogue) (state : Snapshot) (limit : Int) :
    (start catalogue state limit).WithinLimit := Nat.zero_le _

/-- **A push keeps the newest entries**, as many as the limit says. -/
theorem WithinLimit.push_eq_take (hle : e.WithinLimit) (context : ExecutionContext) :
    e.push context = ((e.state, context) :: e.history).take e.limit.toNat :=
  dropOldest_cons_eq_take hle _

/-- After an execution the history is within the limit again. -/
theorem WithinLimit.after (hle : e.WithinLimit) (context : ExecutionContext) (x : Execution) :
    (e.after context x).WithinLimit := by
  have hlength : (e.push context).length ≤ e.limit.toNat := by
    rw [hle.push_eq_take]
    exact List.length_take_le _ _
  exact hlength

theorem WithinLimit.step (hle : e.WithinLimit) (h : e.Step c r) : r.1.WithinLimit := by
  cases h with
  | executed _ _ _ => exact hle.after _ _
  | attempted _ _ _ => exact hle.after _ _
  | restored hcons =>
    unfold WithinLimit at hle ⊢
    rw [hcons, List.length_cons] at hle
    exact Nat.le_of_succ_le hle
  | _ => exact hle

/-- **The history stays within the limit.** -/
theorem WithinLimit.run (hle : e.WithinLimit) (calls : List EngineCall) :
    (e.run calls).engine.WithinLimit :=
  run_induction hle (fun ih hstep => ih.step hstep) calls

/-! ### What one call does to the stack -/

/-- Undoing pops the stack. -/
theorem pastStack_undo (e : Engine) : (e.undo.1.pastStack, e.undo.2) = e.pastStack.pop := by
  unfold undo PastStack.pop pastStack
  cases h : e.history with
  | nil => simp [h]
  | cons p past => rfl

theorem undo_of_history_nil (h : e.history = []) : e.undo = (e, none) := by
  rw [undo, h]

/-- Executing pushes on the stack. -/
theorem WithinLimit.pastStack_after (hle : e.WithinLimit) (context : ExecutionContext)
    (x : Execution) :
    (e.after context x).pastStack = e.pastStack.push e.limit.toNat context x.state :=
  PastStack.ext rfl (hle.push_eq_take context)

/-- **One call does to the stack what its exchange says.** -/
theorem Step.pastStack_eq (h : e.Step c r) (hle : e.WithinLimit) :
    r.1.pastStack = Exchange.after e.limit.toNat ⟨c, r.2⟩ e.pastStack := by
  cases h with
  | executed _ _ _ => exact hle.pastStack_after _ _
  | attempted _ _ _ => exact hle.pastStack_after _ _
  | bottom hnil => simp [Exchange.after, PastStack.pop, pastStack, hnil]
  | restored hcons => simp [Exchange.after, PastStack.pop, pastStack, hcons]
  | _ => rfl

/-- **An engine is the stack that its log describes.** -/
theorem WithinLimit.pastStack_run (hle : e.WithinLimit) (calls : List EngineCall) :
    (e.run calls).engine.pastStack =
      (e.run calls).log.foldr (Exchange.after e.limit.toNat) e.pastStack := by
  induction calls using List.reverseRecOn with
  | nil => rfl
  | append_singleton calls c ih =>
    have hstep := (step_respond (e.run calls).engine c).pastStack_eq (hle.run calls)
    rw [limit_run, ih] at hstep
    rw [run_concat]
    exact hstep

/-! ### Going on, and coming back -/

/-- The engine after undoing some times. -/
def undos (e : Engine) : Nat → Engine
  | 0 => e
  | k + 1 => (e.undos k).undo.1

/-- Undoing some times drops as many entries. -/
theorem history_undos (e : Engine) (k : Nat) : (e.undos k).history = e.history.drop k := by
  induction k with
  | zero => rfl
  | succ k ih =>
    rw [undos, ← List.drop_drop, ← ih, undo]
    cases h : (e.undos k).history with
    | nil => simp [h]
    | cons p past => rfl

/-- **Undoing once more** restores the entry that lies as far back, if there is one. -/
theorem undo_undos {k : Nat} (hk : k < e.history.length) :
    (e.undos k).undo.2 = some e.history[k].2 ∧ (e.undos (k + 1)).state = e.history[k].1 := by
  have hhistory := e.history_undos k
  rw [List.drop_eq_getElem_cons hk] at hhistory
  simp only [undos, undo, hhistory, and_self]

/-- The actor who is answered lies as far back. -/
theorem undo_undos_snd (e : Engine) (k : Nat) :
    (e.undos k).undo.2 = (e.history.map Prod.snd)[k]? := by
  rcases Nat.lt_or_ge k e.history.length with hk | hk
  · simp [(undo_undos hk).1, hk]
  · have hnil : (e.undos k).history = [] := by rw [history_undos, List.drop_eq_nil_of_le hk]
    simp [undo_of_history_nil hnil, hk]

/-- The state that is restored lies as far back. -/
theorem state_undos {k : Nat} (hk : k ≤ e.history.length) :
    (e.state :: e.history.map Prod.fst)[k]? = some (e.undos k).state := by
  cases k with
  | zero => rfl
  | succ k =>
    have hlt : k < e.history.length := hk
    simp [(undo_undos hlt).2, hlt]

/-- What a call does that restores nothing: it pushes what it executes, or it executes nothing
and leaves the stack alone. -/
theorem Step.pushes_or_stays (h : e.Step c r) (hle : e.WithinLimit)
    (hr : Exchange.restores ⟨c, r.2⟩ = false) :
    (Exchange.execution? ⟨c, r.2⟩ = none ∧ r.1.state = e.state ∧ r.1.history = e.history) ∨
      ∃ context x, Exchange.execution? ⟨c, r.2⟩ = some (context, x) ∧ r.1.state = x.state ∧
        r.1.history = ((e.state, context) :: e.history).take e.limit.toNat := by
  cases h with
  | executed _ _ _ => exact Or.inr ⟨_, _, rfl, rfl, hle.push_eq_take _⟩
  | attempted _ _ _ => exact Or.inr ⟨_, _, rfl, rfl, hle.push_eq_take _⟩
  | restored _ => simp [Exchange.restores] at hr
  | _ => exact Or.inl ⟨rfl, rfl, rfl⟩

/-- **What lies on the stack after going on**: the actors and the states of the executions, the
latest first, above those from before, as many of them as there is room for. -/
theorem WithinLimit.stack_of_not_restores (hle : e.WithinLimit) (calls : List EngineCall)
    (h : ∀ ex ∈ (e.run calls).log, ex.restores = false) :
    (e.run calls).engine.history.map Prod.snd =
        ((executionsOf (e.run calls).log).map Prod.fst ++ e.history.map Prod.snd).take
          e.limit.toNat ∧
      (e.run calls).engine.state :: (e.run calls).engine.history.map Prod.fst =
        (statesFrom e.state (executionsOf (e.run calls).log) ++ e.history.map Prod.fst).take
          (e.limit.toNat + 1) := by
  induction calls using List.reverseRecOn with
  | nil =>
    have hfits : e.history.length ≤ e.limit.toNat := hle
    simp [executionsOf, statesFrom, List.take_of_length_le, hfits]
  | append_singleton calls c ih =>
    rw [run_concat] at h ⊢
    obtain ⟨hnew, hold⟩ := List.forall_mem_cons.1 h
    obtain ⟨hactors, hstates⟩ := ih hold
    have hstep := (step_respond (e.run calls).engine c).pushes_or_stays (hle.run calls) hnew
    rw [limit_run] at hstep
    simp only [EngineRun.call, executionsOf_cons]
    rcases hstep with ⟨hnone, hstate, hhistory⟩ | ⟨context, x, hsome, hstate, hhistory⟩
    · rw [hnone, hstate, hhistory]
      exact ⟨hactors, hstates⟩
    · rw [hsome, hstate, hhistory, Option.toList_some, List.singleton_append]
      refine ⟨?_, ?_⟩
      · rw [List.map_take, List.map_cons, hactors, take_cons_take, List.map_cons, List.cons_append]
      · have hroom : min e.limit.toNat (e.limit.toNat + 1) = e.limit.toNat :=
          Nat.min_eq_left (Nat.le_succ _)
        rw [List.map_take, List.map_cons, hstates, List.take_take, hroom]
        simp only [statesFrom, List.map_cons, List.cons_append, List.take_succ_cons]

/-- **What can be undone after going on**: as many executions as there are entries and room
for them. As long as these are new ones, undoing goes back through their states and answers
with their actors, the latest first. -/
theorem WithinLimit.undos_of_not_restores (hle : e.WithinLimit) {calls : List EngineCall}
    (h : ∀ ex ∈ (e.run calls).log, ex.restores = false) {f : Engine}
    {xs : List (ExecutionContext × Execution)} (hf : f = (e.run calls).engine)
    (hxs : xs = executionsOf (e.run calls).log) (k : Nat) :
    ((f.undos k).undo.2.isSome = true ↔ k < min (xs.length + e.history.length) e.limit.toNat) ∧
      (k < min xs.length e.limit.toNat → (f.undos k).undo.2 = (xs.map Prod.fst)[k]?) ∧
      (k ≤ min xs.length e.limit.toNat →
        (statesFrom e.state xs)[k]? = some (f.undos k).state) := by
  obtain ⟨hactors, hstates⟩ := hle.stack_of_not_restores calls h
  rw [← hf, ← hxs] at hactors hstates
  refine ⟨?_, fun hk => ?_, fun hk => ?_⟩
  · rw [undo_undos_snd, hactors, Option.isSome_iff_ne_none, ne_eq, List.getElem?_eq_none_iff]
    simp only [List.length_take, List.length_append, List.length_map]
    omega
  · have hroom : k < e.limit.toNat := by omega
    have hnew : k < (xs.map Prod.fst).length := by rw [List.length_map]; omega
    rw [undo_undos_snd, hactors, List.getElem?_take_of_lt hroom, List.getElem?_append_left hnew]
  · have hlength : f.history.length = min (xs.length + e.history.length) e.limit.toNat := by
      have hsize := congrArg List.length hactors
      simp only [List.length_map, List.length_take, List.length_append] at hsize
      omega
    have hroom : k < e.limit.toNat + 1 := by omega
    have hnew : k < (statesFrom e.state xs).length := by
      simp only [statesFrom, List.length_append, List.length_map, List.length_singleton]
      omega
    have hdepth : k ≤ f.history.length := by omega
    rw [← state_undos hdepth, hstates, List.getElem?_take_of_lt hroom,
      List.getElem?_append_left hnew]

/-- **The history is a stack with a limit.** After any calls of a fresh engine, where a
negative limit counts as zero:

* the state and the history are the stack that comes of the calls and their answers: what is
  executed is pushed, undoing pops, and all else leaves it alone;
* the past states are listed with the oldest first, and there are no more of them than the
  limit says, so that a push, which drops at most the oldest entry, keeps the newest ones up to
  the limit;
* undoing restores the newest entry and answers with its actor, and changes nothing if there
  is none;
* after `n` further executions, while nothing is restored, undoing succeeds as often as there
  are entries, new ones or old ones, and room for them; the first `n` times, if there is room,
  it goes back through the states of the executions and answers with their actors, the
  latest first. With nothing in the history before, just the smaller one of `n` and the limit
  can be undone. -/
theorem history_refines_stack (catalogue : Catalogue) (state : Snapshot) (limit : Int)
    (calls : List EngineCall) :
    let e := ((Engine.start catalogue state limit).run calls).engine
    let log := ((Engine.start catalogue state limit).run calls).log
    e.pastStack = log.foldr (Exchange.after limit.toNat) ⟨state, []⟩ ∧
    (e.pastStates.reverse = e.pastStack.past.map Prod.fst ∧ e.pastStates.length ≤ limit.toNat ∧
      ∀ context, e.push context = dropOldest limit ((e.state, context) :: e.history) ∧
        e.push context = ((e.state, context) :: e.history).take limit.toNat) ∧
    ((e.undo.1.pastStack, e.undo.2) = e.pastStack.pop ∧
      (e.pastStates = [] → e.undo = (e, none))) ∧
    ∀ more, (∀ ex ∈ (e.run more).log, ex.restores = false) →
      let xs := executionsOf (e.run more).log
      ∀ k,
        ((((e.run more).engine.undos k).undo.2.isSome = true) ↔
          k < min (xs.length + e.pastStates.length) limit.toNat) ∧
        (k < min xs.length limit.toNat →
          ((e.run more).engine.undos k).undo.2 = (xs.map Prod.fst)[k]?) ∧
        (k ≤ min xs.length limit.toNat →
          (statesFrom e.state xs)[k]? = some ((e.run more).engine.undos k).state) := by
  intro e log
  have hlimit : e.limit = limit := limit_run _ calls
  have hle : e.WithinLimit := (withinLimit_start catalogue state limit).run calls
  have hlength : e.pastStates.length = e.history.length := by simp [pastStates]
  refine ⟨(withinLimit_start catalogue state limit).pastStack_run calls,
    ⟨by simp [pastStates, pastStack], ?_, fun context => ?_⟩, ⟨pastStack_undo e, fun hnil => ?_⟩, ?_⟩
  · rw [hlength, ← hlimit]
    exact hle
  · rw [← hlimit]
    exact ⟨rfl, hle.push_eq_take context⟩
  · refine undo_of_history_nil (List.length_eq_zero_iff.1 ?_)
    rw [← hlength, hnil, List.length_nil]
  · intro more hmore xs k
    rw [hlength, ← hlimit]
    exact hle.undos_of_not_restores hmore rfl rfl k

end Engine

end ClusterTutor
