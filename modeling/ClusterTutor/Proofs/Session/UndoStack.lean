import ClusterTutor.Proofs.Data.Except
import ClusterTutor.Proofs.Engine.History
import ClusterTutor.Proofs.Session.Lines

/-!
# A session is a bounded undo stack

What can be undone is kept in two places: the engine keeps the past states and the session
keeps the past actors, and each of them drops the oldest entry of its own list when there are
too many. This module shows that the two lists stay in step under every sequence of calls
(`ClusterTutor.Session.Paired.calls`), so that together they are one stack of pairs, of
which a line that executes a command pushes one and undoing pops one
(`ClusterTutor.Session.refines_undoStack`).

The pairs are those of the session, and not of the engine: the engine is called with the
actor that a line lends its privilege to, and an undone line must not leave that privilege
behind.
-/

namespace ClusterTutor

/-- A stack of what was held before, the newest first, with what is held now. -/
@[ext] structure UndoStack (α : Type) where
  /-- What is held now. -/
  current : α
  /-- What was held before. -/
  saved : List α

namespace UndoStack

variable {α : Type}

/-- Holds something new and saves what was held, of which the oldest is dropped if there
is no room. -/
def push (capacity : Nat) (next : α) (u : UndoStack α) : UndoStack α where
  current := next
  saved := (u.current :: u.saved).take capacity

/-- Holds what was saved last, and says whether there was something. -/
def pop (u : UndoStack α) : UndoStack α × Bool :=
  match u.saved with
  | [] => (u, false)
  | p :: saved => (⟨p, saved⟩, true)

/-- All that is held and saved, the newest first. -/
def entries (u : UndoStack α) : List α := u.current :: u.saved

@[simp] theorem entries_push (capacity : Nat) (next : α) (u : UndoStack α) :
    (u.push capacity next).entries = next :: u.entries.take capacity := rfl

end UndoStack

/-- A call of a session. -/
inductive SessionCall where
  /-- Run a typed line. -/
  | line (text : String)
  /-- Undo the latest executed line. -/
  | undo
  /-- Go on to the next step, if the current one is passed. -/
  | advance (now : Instant) (clock : Magnitude)
  /-- Reveal the next hint. -/
  | revealHint (clock : Magnitude)
  /-- Start a lab. -/
  | startLab (lab : Lab) (clock : Magnitude)

/-- Whether a call neither undoes anything nor sets the system up anew. -/
def SessionCall.goesOn : SessionCall → Bool
  | .line _ | .advance _ _ | .revealHint _ => true
  | .undo | .startLab _ _ => false

namespace Session

/-- The session after a call. Nothing comes of a hint that cannot be revealed. -/
def call (s : Session) (t : Tutor) : SessionCall → Session
  | .line text => (runLine t s text).session
  | .undo => s.undo.1
  | .advance now clock => (s.advance t now clock).session
  | .revealHint clock =>
    match s.revealHint clock with
    | .ok (s', _) => s'
    | .error _ => s
  | .startLab lab clock => s.startLab t lab clock

/-- The session after calls, each with the tutor of its moment: between two calls of one
session, others may have changed it. -/
def calls (s : Session) (cs : List (Tutor × SessionCall)) : Session :=
  cs.foldl (fun s c => s.call c.1 c.2) s

/-- Whether a line was answered, and answered well. -/
def Run.endsWell (r : Run) : Bool :=
  match r.outcome with
  | .ok o => o.status == .ok
  | .error _ => false

/-- Whether a line executes a command: it is no built-in, and it ends well. -/
def executes (s : Session) (t : Tutor) (line : String) : Bool :=
  !isBuiltIn (Text.trim line) && (runLine t s line).endsWell

/-- Whether a call executes a command. -/
def pushes (s : Session) (t : Tutor) : SessionCall → Bool
  | .line text => s.executes t text
  | _ => false

/-- How many of the calls execute a command. -/
def executions (s : Session) : List (Tutor × SessionCall) → Nat
  | [] => 0
  | c :: cs => (s.pushes c.1 c.2).toNat + (s.call c.1 c.2).executions cs

/-- The session after undoing some times, and whether something was undone each time. -/
def undoTimes (s : Session) : Nat → Session × Bool
  | 0 => (s, true)
  | k + 1 => ((s.undo.1.undoTimes k).1, s.undo.2 && (s.undo.1.undoTimes k).2)

/-- The states and actors that a session holds and can go back to. -/
def undoStack (s : Session) : UndoStack (Snapshot × ExecutionContext) where
  current := (s.state, s.context)
  saved := (s.engine.history.map Prod.fst).zip s.pastContexts

/-- **The two lists are in step**: the engine keeps as many states as the session keeps
actors, and no more than can be undone. -/
structure Paired (s : Session) : Prop where
  /-- The engine keeps as many states as can be undone. -/
  limit : s.engine.limit = undoLimit
  /-- There is an actor for every state. -/
  length : s.pastContexts.length = s.engine.history.length
  /-- There are no more of them than can be undone. -/
  bounded : s.engine.history.length ≤ undoLimit

variable {s s' : Session} {t : Tutor}

/-! ### What lines leave behind -/

/-- The stack depends on the engine and the actors only. -/
theorem undoStack_congr (he : s'.engine = s.engine) (hc : s'.context = s.context)
    (hp : s'.pastContexts = s.pastContexts) : s'.undoStack = s.undoStack := by
  simp [undoStack, state, he, hc, hp]

@[simp] theorem undoStack_typing (s : Session) (line : String) :
    (s.typing line).undoStack = s.undoStack := rfl

@[simp] theorem undoStack_failing (s : Session) : s.failing.undoStack = s.undoStack := rfl

theorem Paired.congr (h : s.Paired) (he : s'.engine = s.engine)
    (hp : s'.pastContexts = s.pastContexts) : s'.Paired where
  limit := by rw [he, h.limit]
  length := by rw [he, hp, h.length]
  bounded := by rw [he]; exact h.bounded

theorem Paired.toNat_limit (h : s.Paired) : s.engine.limit.toNat = undoLimit := by
  rw [h.limit]
  rfl

theorem Paired.withinLimit (h : s.Paired) : s.engine.WithinLimit := by
  rw [Engine.WithinLimit, h.toNat_limit]
  exact h.bounded

/-- The engine keeps the newest states, as many as can be undone. -/
theorem Paired.push_eq_take (h : s.Paired) (acting : ExecutionContext) :
    s.engine.push acting = ((s.state, acting) :: s.engine.history).take undoLimit := by
  rw [h.withinLimit.push_eq_take, h.toNat_limit]
  rfl

/-- The session keeps the newest actors, as many as can be undone. -/
theorem Paired.dropOldest_eq_take (h : s.Paired) (context : ExecutionContext) :
    dropOldest undoLimit (context :: s.pastContexts) =
      (context :: s.pastContexts).take undoLimit := by
  have hbounded : s.pastContexts.length ≤ (undoLimit : Int).toNat := by
    rw [h.length]
    exact h.bounded
  exact dropOldest_cons_eq_take hbounded context

/-- What an attempt that executes something does to the engine. -/
theorem of_attempt_eq_ok {e e' : Engine} {acting : ExecutionContext} {command : String}
    {i : Invocation} {x : Execution} (h : e.attempt acting command i = (e', .ok (.ok x))) :
    e'.limit = e.limit ∧ e'.history = e.push acting := by
  obtain ⟨d, -, -, -, rfl⟩ := Engine.attempt_eq_ok_iff.1 h
  exact ⟨rfl, rfl⟩

/-- **Running a command keeps the lists in step.** -/
theorem CommandRun.paired {line tracked : String} {acting : ExecutionContext} {r : Run}
    (h : CommandRun t s line acting tracked r) (hs : s.Paired) : r.session.Paired := by
  cases h with
  | rejected _ => exact hs.congr rfl rfl
  | overlong _ => exact hs
  | executed _ _ _ hatt =>
    obtain ⟨hlimit, hhistory⟩ := of_attempt_eq_ok hatt
    rw [hs.push_eq_take] at hhistory
    refine ⟨hlimit.trans hs.limit, ?_, ?_⟩
    · simp [afterExecution, hhistory, hs.dropOldest_eq_take, hs.length]
    · simp only [afterExecution, hhistory]
      exact List.length_take_le _ _

/-- **What running a command does to the stack**: it pushes what was held if it ends well,
and otherwise leaves the stack alone. -/
theorem CommandRun.undoStack_eq {line tracked : String} {acting : ExecutionContext} {r : Run}
    (h : CommandRun t s line acting tracked r) (hs : s.Paired) :
    r.session.undoStack =
      if r.endsWell then s.undoStack.push undoLimit (r.session.state, r.session.context)
      else s.undoStack := by
  cases h with
  | rejected hstatus => simp [Run.endsWell, hstatus]
  | overlong _ => simp [Run.endsWell]
  | executed _ _ _ hatt =>
    obtain ⟨-, hhistory⟩ := of_attempt_eq_ok hatt
    rw [hs.push_eq_take] at hhistory
    -- The engine saves the state with the actor of the line, who may be root for that line
    -- only; the actor of the session is saved beside it.
    simp [Run.endsWell, executionOutcome, afterExecution, undoStack, UndoStack.push, state,
      hhistory, hs.dropOldest_eq_take, List.zip_eq_zipWith, ← List.take_zipWith, List.map_take]

theorem LineRun.paired {line : String} {r : Run} (h : LineRun t s line r) (hs : s.Paired) :
    r.session.Paired := by
  have htyping : (s.typing line).Paired := hs.congr rfl rfl
  cases h with
  | blank _ => exact hs
  | answered _ _ => exact htyping
  | refused _ => exact hs.congr rfl rfl
  | asActor _ _ hrun => exact hrun.paired htyping
  | asRoot _ _ hrun => exact hrun.paired htyping

/-- **What running a line does to the stack.** Built-ins may end well, too, but they do
not push anything. -/
theorem LineRun.undoStack_eq {line : String} {r : Run} (h : LineRun t s line r) (hs : s.Paired) :
    r.session.undoStack =
      if !isBuiltIn (Text.trim line) && r.endsWell then
        s.undoStack.push undoLimit (r.session.state, r.session.context)
      else s.undoStack := by
  have htyping : (s.typing line).Paired := hs.congr rfl rfl
  cases h with
  | blank _ => simp [Run.endsWell]
  | answered hbuiltIn _ => simp [hbuiltIn]
  | refused hstatus => simp [Run.endsWell, hstatus]
  | asActor hno _ hrun => simp [hno, hrun.undoStack_eq htyping]
  | asRoot hno _ hrun => simp [hno, hrun.undoStack_eq htyping]

/-- **A line that executes a command pushes what was held**, and any other line leaves the
stack alone. -/
theorem undoStack_runLine (hs : s.Paired) (t : Tutor) (line : String) :
    (runLine t s line).session.undoStack =
      if s.executes t line then
        s.undoStack.push undoLimit
          ((runLine t s line).session.state, (runLine t s line).session.context)
      else s.undoStack :=
  (lineRun_runLine t s line).undoStack_eq hs

/-! ### What the other calls leave behind -/

/-- **What undoing does** to lists that are in step: both are empty and nothing changes, or
both lose their newest entry and the session goes back to it. -/
theorem undo_cases (hs : s.Paired) :
    s.engine.history = [] ∧ s.pastContexts = [] ∧ s.undo = (s, false) ∨
      ∃ p history context pastContexts, s.engine.history = p :: history ∧
        s.pastContexts = context :: pastContexts ∧
        s.undo = ({ s with
          engine := { s.engine with state := p.1, history, approval := none }
          context
          pastContexts }, true) := by
  have hlength := hs.length
  cases hh : s.engine.history with
  | nil =>
    have hp : s.pastContexts = [] := List.length_eq_zero_iff.1 (by rw [hlength, hh]; rfl)
    exact Or.inl ⟨rfl, hp, by simp [Session.undo, Engine.undo, hh]⟩
  | cons p history =>
    cases hp : s.pastContexts with
    | nil => simp [hh, hp] at hlength
    | cons context pastContexts =>
      refine Or.inr ⟨p, history, context, pastContexts, rfl, rfl, ?_⟩
      simp [Session.undo, Engine.undo, hh, hp]

/-- Undoing pops the stack. -/
theorem undoStack_undo (hs : s.Paired) : (s.undo.1.undoStack, s.undo.2) = s.undoStack.pop := by
  rcases undo_cases hs with ⟨hh, hp, hundo⟩ | ⟨p, history, context, pastContexts, hh, hp, hundo⟩
  · simp [hundo, undoStack, UndoStack.pop, hh]
  · simp [hundo, undoStack, UndoStack.pop, hh, hp, state]

/-- Undoing with nothing saved changes nothing. -/
theorem undo_of_saved_nil (hs : s.Paired) (h : s.undoStack.saved = []) : s.undo = (s, false) := by
  rcases undo_cases hs with ⟨-, -, hundo⟩ | ⟨p, history, context, pastContexts, hh, hp, -⟩
  · exact hundo
  · simp [undoStack, hh, hp] at h

theorem Paired.undo (hs : s.Paired) : s.undo.1.Paired := by
  obtain ⟨hlimit, hlength, hbounded⟩ := hs
  rcases undo_cases ⟨hlimit, hlength, hbounded⟩ with
    ⟨-, -, hundo⟩ | ⟨p, history, context, pastContexts, hh, hp, hundo⟩
  · rw [hundo]
    exact ⟨hlimit, hlength, hbounded⟩
  · rw [hh, List.length_cons] at hlength hbounded
    rw [hp, List.length_cons] at hlength
    rw [hundo]
    exact ⟨hlimit, Nat.succ.inj hlength, Nat.le_of_succ_le hbounded⟩

/-- Going on to the next step touches neither the system nor the actor. -/
theorem advance_session (s : Session) (t : Tutor) (now : Instant) (clock : Magnitude) :
    (s.advance t now clock).session.engine = s.engine ∧
      (s.advance t now clock).session.context = s.context ∧
      (s.advance t now clock).session.pastContexts = s.pastContexts := by
  unfold advance
  split
  · split
    · exact ⟨rfl, rfl, rfl⟩
    · split
      · exact ⟨rfl, rfl, rfl⟩
      · dsimp only
        split
        · split <;> exact ⟨rfl, rfl, rfl⟩
        · exact ⟨rfl, rfl, rfl⟩
  · exact ⟨rfl, rfl, rfl⟩

/-- Revealing a hint touches neither the system nor the actor. -/
theorem of_revealHint_eq_ok {clock : Magnitude} {shown : String}
    (h : s.revealHint clock = .ok (s', shown)) :
    s'.engine = s.engine ∧ s'.context = s.context ∧ s'.pastContexts = s.pastContexts := by
  unfold revealHint at h
  split at h
  · obtain ⟨rfl, -⟩ := Prod.ext_iff.1 (Except.ok.inj h)
    exact ⟨rfl, rfl, rfl⟩
  · obtain ⟨found, -, h⟩ := bind_eq_ok.1 h
    split at h
    · obtain ⟨line, -, h⟩ := bind_eq_ok.1 h
      obtain ⟨rfl, -⟩ := Prod.ext_iff.1 (Except.ok.inj h)
      exact ⟨rfl, rfl, rfl⟩
    · obtain ⟨rfl, -⟩ := Prod.ext_iff.1 (Except.ok.inj h)
      exact ⟨rfl, rfl, rfl⟩

theorem call_revealHint (s : Session) (t : Tutor) (clock : Magnitude) :
    (s.call t (.revealHint clock)).engine = s.engine ∧
      (s.call t (.revealHint clock)).context = s.context ∧
      (s.call t (.revealHint clock)).pastContexts = s.pastContexts := by
  simp only [call]
  split
  · rename_i h
    exact of_revealHint_eq_ok h
  · exact ⟨rfl, rfl, rfl⟩

/-! ### All calls -/

theorem Paired.call (hs : s.Paired) (t : Tutor) (c : SessionCall) : (s.call t c).Paired := by
  cases c with
  | line text => exact (lineRun_runLine t s text).paired hs
  | undo => exact hs.undo
  | advance now clock =>
    obtain ⟨hengine, -, hpast⟩ := advance_session s t now clock
    exact hs.congr hengine hpast
  | revealHint clock =>
    obtain ⟨hengine, -, hpast⟩ := call_revealHint s t clock
    exact hs.congr hengine hpast
  | startLab lab clock => exact ⟨rfl, rfl, Nat.zero_le _⟩

/-- **The two lists stay in step** through all calls. -/
theorem Paired.calls (hs : s.Paired) (cs : List (Tutor × SessionCall)) : (s.calls cs).Paired := by
  induction cs generalizing s with
  | nil => exact hs
  | cons c cs ih => exact ih (hs.call c.1 c.2)

theorem paired_start (t : Tutor) (profile : ProfileNumber) (clock : Magnitude) :
    (start t profile clock).Paired := ⟨rfl, rfl, Nat.zero_le _⟩

/-- **What a call that goes on does to the stack.** -/
theorem undoStack_call (hs : s.Paired) (t : Tutor) {c : SessionCall} (hc : c.goesOn = true) :
    (s.call t c).undoStack =
      if s.pushes t c then
        s.undoStack.push undoLimit ((s.call t c).state, (s.call t c).context)
      else s.undoStack := by
  cases c with
  | line text =>
    simp only [call, pushes]
    exact undoStack_runLine hs t text
  | undo => simp [SessionCall.goesOn] at hc
  | advance now clock =>
    obtain ⟨hengine, hcontext, hpast⟩ := advance_session s t now clock
    exact undoStack_congr hengine hcontext hpast
  | revealHint clock =>
    obtain ⟨hengine, hcontext, hpast⟩ := call_revealHint s t clock
    exact undoStack_congr hengine hcontext hpast
  | startLab lab clock => simp [SessionCall.goesOn] at hc

/-! ### Going on and coming back -/

theorem length_entries_le (hs : s.Paired) : s.undoStack.entries.length ≤ undoLimit + 1 := by
  simpa [UndoStack.entries, undoStack, hs.length] using hs.bounded

/-- **What was held stays below what is pushed**: after `k` executions, the entries from
the `k`-th on are those from before, as many of them as there is room for. -/
theorem drop_entries_calls (hs : s.Paired) {cs : List (Tutor × SessionCall)}
    (hcs : ∀ c ∈ cs, c.2.goesOn = true) :
    (s.calls cs).undoStack.entries.drop (s.executions cs) =
      s.undoStack.entries.take (undoLimit + 1 - s.executions cs) := by
  induction cs generalizing s with
  | nil =>
    have hall : s.undoStack.entries.take (undoLimit + 1) = s.undoStack.entries :=
      List.take_of_length_le (length_entries_le hs)
    simpa [calls, executions] using hall.symm
  | cons c cs ih =>
    -- The calls are taken off at the front: the rest starts from a stack that may have one
    -- entry more on top, which is the first one that the larger count drops.
    have hrest : ∀ c' ∈ cs, c'.2.goesOn = true := fun c' h => hcs c' (List.mem_cons_of_mem _ h)
    have hlater := ih (hs.call c.1 c.2) hrest
    have hstep := undoStack_call hs c.1 (hcs c List.mem_cons_self)
    change ((s.call c.1 c.2).calls cs).undoStack.entries.drop _ = _
    cases hpush : s.pushes c.1 c.2 with
    | false =>
      rw [hpush] at hstep
      simp only [executions, hpush, Bool.toNat_false, Nat.zero_add]
      rw [hlater, hstep]
      simp
    | true =>
      rw [hpush] at hstep
      have hentries := congrArg UndoStack.entries hstep
      simp only [if_true, UndoStack.entries_push] at hentries
      simp only [executions, hpush, Bool.toNat_true]
      rw [Nat.add_comm 1, ← List.drop_drop, hlater, hentries, List.drop_take, List.drop_one,
        List.tail_cons, List.take_take]
      congr 1
      omega

/-- Undoing as often as there is something saved drops that many entries, and succeeds
each time. -/
theorem undoTimes_of_lt (hs : s.Paired) {k : Nat} (hk : k < s.undoStack.entries.length) :
    (s.undoTimes k).1.undoStack.entries = s.undoStack.entries.drop k ∧
      (s.undoTimes k).2 = true := by
  induction k generalizing s with
  | zero => exact ⟨rfl, rfl⟩
  | succ k ih =>
    have hpop := undoStack_undo hs
    cases hsaved : s.undoStack.saved with
    | nil => simp [UndoStack.entries, hsaved] at hk
    | cons p saved =>
      simp only [UndoStack.pop, hsaved, Prod.mk.injEq] at hpop
      obtain ⟨hstack, hdone⟩ := hpop
      have hentries : s.undo.1.undoStack.entries = s.undoStack.entries.drop 1 := by
        simp [hstack, UndoStack.entries, hsaved]
      have hk' : k < s.undo.1.undoStack.entries.length := by
        rw [hentries, List.length_drop]
        omega
      obtain ⟨hrest, hall⟩ := ih hs.undo hk'
      refine ⟨?_, ?_⟩
      · simp only [undoTimes, hrest, hentries, List.drop_drop]
        rw [Nat.add_comm]
      · simp [undoTimes, hdone, hall]

/-- **Undoing as many lines as were executed** comes back to what was held, above as much
of what was saved as there was room for. -/
theorem undoTimes_calls (hs : s.Paired) {cs : List (Tutor × SessionCall)}
    (hcs : ∀ c ∈ cs, c.2.goesOn = true) (hk : s.executions cs ≤ undoLimit) :
    ((s.calls cs).undoTimes (s.executions cs)).1.undoStack =
        ⟨(s.state, s.context), s.undoStack.saved.take (undoLimit - s.executions cs)⟩ ∧
      ((s.calls cs).undoTimes (s.executions cs)).2 = true := by
  have hdrop := drop_entries_calls hs hcs
  have hroom : undoLimit + 1 - s.executions cs = undoLimit - s.executions cs + 1 := by omega
  -- What is held now is still among the entries, so there is enough to undo.
  have hlt : s.executions cs < (s.calls cs).undoStack.entries.length := by
    by_contra hge
    rw [List.drop_eq_nil_of_le (Nat.le_of_not_lt hge), hroom] at hdrop
    simp [UndoStack.entries] at hdrop
  obtain ⟨hentries, hall⟩ := undoTimes_of_lt (hs.calls cs) hlt
  rw [hdrop, hroom] at hentries
  simp only [UndoStack.entries, List.take_succ_cons, List.cons.injEq] at hentries
  obtain ⟨hcurrent, hsaved⟩ := hentries
  exact ⟨UndoStack.ext hcurrent hsaved, hall⟩

/-- **A session is a bounded undo stack.** After any calls of a fresh session:

* there are as many saved actors as saved states, and no more than can be undone;
* a line that executes a command pushes the state and the actor from before it, and the
  oldest ones fall out when there are too many; any other line leaves the stack alone;
* undoing pops the stack, and changes nothing if it is empty;
* starting a lab empties the stack, and going on to a next step or revealing a hint leaves
  it alone;
* after calls that go on and execute no more than can be undone, undoing as often as
  something was executed comes back to the state and the actor from before. -/
theorem refines_undoStack (t : Tutor) (profile : ProfileNumber) (clock : Magnitude)
    (cs : List (Tutor × SessionCall)) :
    let s := (start t profile clock).calls cs
    (s.pastContexts.length = s.engine.history.length ∧ s.engine.history.length ≤ undoLimit) ∧
    (∀ t line, (runLine t s line).session.undoStack =
      if s.executes t line then
        s.undoStack.push undoLimit
          ((runLine t s line).session.state, (runLine t s line).session.context)
      else s.undoStack) ∧
    ((s.undo.1.undoStack, s.undo.2) = s.undoStack.pop ∧
      (s.undoStack.saved = [] → s.undo = (s, false))) ∧
    (∀ t lab clock, (s.startLab t lab clock).undoStack =
      ⟨(Content.machines.overlay lab.initialState, {}), []⟩) ∧
    (∀ t now clock, (s.advance t now clock).session.undoStack = s.undoStack) ∧
    (∀ clock s' shown, s.revealHint clock = .ok (s', shown) → s'.undoStack = s.undoStack) ∧
    ∀ more : List (Tutor × SessionCall), (∀ c ∈ more, c.2.goesOn = true) →
      s.executions more ≤ undoLimit →
        ((s.calls more).undoTimes (s.executions more)).1.undoStack =
            ⟨(s.state, s.context), s.undoStack.saved.take (undoLimit - s.executions more)⟩ ∧
          ((s.calls more).undoTimes (s.executions more)).2 = true := by
  intro s
  have hs : s.Paired := (paired_start t profile clock).calls cs
  refine ⟨⟨hs.length, hs.bounded⟩, undoStack_runLine hs, ⟨undoStack_undo hs, undo_of_saved_nil hs⟩,
    fun t lab clock => rfl, fun t now clock => ?_, fun clock s' shown h => ?_,
    fun more hmore hk => undoTimes_calls hs hmore hk⟩
  · obtain ⟨hengine, hcontext, hpast⟩ := advance_session s t now clock
    exact undoStack_congr hengine hcontext hpast
  · obtain ⟨hengine, hcontext, hpast⟩ := of_revealHint_eq_ok h
    exact undoStack_congr hengine hcontext hpast

end Session

end ClusterTutor
