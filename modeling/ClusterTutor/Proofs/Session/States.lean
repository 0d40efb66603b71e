import ClusterTutor.Proofs.Session.UndoStack
import ClusterTutor.Proofs.Session.WriteValues

/-!
# What holds of all states of a session

A session holds a state and the states that it can go back to. A property that the machines
have at first, and that executions keep, holds of all of them: undoing brings back a state
that was there before, and the other calls leave the states alone
(`ClusterTutor.Session.Throughout.calls`). Only a lab that is started brings fields of its own.

Properties of states are mostly properties of their fields, one by one
(`ClusterTutor.Snapshot.Every`). One of them is proved here: the names of all fields are texts
(`ClusterTutor.Snapshot.Named`). Another one is in `ClusterTutor.Proofs.Session.ShownNumbers`.
-/

namespace ClusterTutor

/-! ### Properties of fields -/

/-- All fields of a state have a property. -/
def Snapshot.Every (Q : FieldName → Value → Prop) (s : Snapshot) : Prop :=
  ∀ domain field v, s.value? domain field = some v → Q field v

/-- **A property of states is kept by executions**, whatever a line supplies for them. -/
def Definition.Keep (P : Snapshot → Prop) : Prop :=
  ∀ (written : Definition) (p : ParsedLine) (i : Invocation), Invocation.ofLine written p = .ok i →
    ∀ (d : Definition) (context : ExecutionContext) (s : Snapshot) (x : Execution),
      d.execution? context i s = some x → P s → P x.state

section Every

variable {Q : FieldName → Value → Prop} {s new : Snapshot}

theorem Snapshot.every_of_forall_mem (h : ∀ d ∈ s.toList, ∀ f ∈ d.2.toList, Q f.1 f.2) :
    s.Every Q := by
  intro domain field v hv
  obtain ⟨fields, hdomain, hfield⟩ := Option.bind_eq_some_iff.1 hv
  exact h _ ((OrderedMap.mem_toList_iff _ _ _).2 hdomain) _
    ((OrderedMap.mem_toList_iff _ _ _).2 hfield)

theorem Snapshot.Every.forall_mem (h : s.Every Q) :
    ∀ d ∈ s.toList, ∀ f ∈ d.2.toList, Q f.1 f.2 := by
  intro d hd f hf
  refine h d.1 f.1 f.2 (Option.bind_eq_some_iff.2 ⟨d.2, ?_, ?_⟩)
  · exact (OrderedMap.mem_toList_iff _ _ _).1 hd
  · exact (OrderedMap.mem_toList_iff _ _ _).1 hf

theorem Snapshot.Every.overlay (h : s.Every Q) (hnew : new.Every Q) : (s.overlay new).Every Q := by
  intro domain field v hv
  rw [value?_overlay, Option.or_eq_some_iff] at hv
  rcases hv with hv | ⟨-, hv⟩
  · exact hnew domain field v hv
  · exact h domain field v hv

/-- **An execution keeps a property of fields** if what is supplied under a text has it. -/
theorem Snapshot.Every.execution (h : s.Every Q) {d : Definition} {context : ExecutionContext}
    {i : Invocation} {x : Execution} (hx : d.execution? context i s = some x)
    (hi : ∀ name v, i.values.get? name = some v → ∀ f, Q (.text f) v) : x.state.Every Q := by
  obtain ⟨-, hdelta, hstate⟩ := Definition.execution?_eq_some_iff.1 hx
  rw [hstate, hdelta]
  refine h.overlay fun domain field v hv => ?_
  simp only [Snapshot.value?, OrderedMap.get?_erase] at hv
  split at hv
  · cases hv
  · have hwritten : (d.writtenBy i).value? domain field = some v := hv
    rw [Definition.value?_writtenBy] at hwritten
    obtain ⟨-, hsupplied⟩ := Option.ite_none_right_eq_some.1 hwritten
    obtain ⟨name, hname⟩ := Invocation.exists_get?_of_suppliedTo? hsupplied
    cases field with
    | text f => exact hi name v hname f
    | _ => cases hsupplied

end Every

/-! ### All states of a session -/

/-- A property holds of a state, and of every state that can be gone back to. -/
structure Session.Throughout (P : Snapshot → Prop) (s : Session) : Prop where
  /-- It holds of the state. -/
  state : P s.state
  /-- It holds of the earlier states. -/
  history : ∀ p ∈ s.engine.history, P p.1

/-- A call brings no state without a property. Only the lab that is started may. -/
def SessionCall.Brings (P : Snapshot → Prop) : SessionCall → Prop
  | .startLab lab _ => P (Content.machines.overlay lab.initialState)
  | _ => True

namespace Session

variable {P : Snapshot → Prop} {s s' : Session} {t : Tutor}

theorem Throughout.congr (h : s.Throughout P) (he : s'.engine = s.engine) : s'.Throughout P where
  state := by rw [Session.state, he]; exact h.state
  history := by rw [he]; exact h.history

theorem throughout_start (h : P Content.machines) (t : Tutor) (profile : ProfileNumber)
    (clock : Magnitude) :
    (start t profile clock).Throughout P :=
  ⟨h, fun _ hp => absurd hp List.not_mem_nil⟩

theorem CommandRun.throughout {line tracked : String} {acting : ExecutionContext} {r : Run}
    (h : CommandRun t s line acting tracked r) (hkeep : Definition.Keep P) (hs : s.Throughout P) :
    r.session.Throughout P := by
  cases h with
  | rejected _ => exact hs.congr rfl
  | overlong _ => exact hs
  | executed _ _ hi hatt =>
    obtain ⟨d, -, -, hx, rfl⟩ := Engine.attempt_eq_ok_iff.1 hatt
    refine ⟨hkeep _ _ _ hi d acting s.state _ hx hs.state, fun p hp => ?_⟩
    rcases List.mem_cons.1 (mem_of_mem_dropOldest hp) with rfl | hpast
    · exact hs.state
    · exact hs.history p hpast

theorem Throughout.runLine (hs : s.Throughout P) (hkeep : Definition.Keep P) (t : Tutor)
    (line : String) : (runLine t s line).session.Throughout P := by
  have htyping : (s.typing line).Throughout P := hs.congr rfl
  have hexits := lineRun_runLine t s line
  generalize Session.runLine t s line = r at hexits ⊢
  cases hexits with
  | blank _ => exact hs
  | answered _ _ => exact htyping
  | refused _ => exact hs.congr rfl
  | asActor _ _ hrun => exact hrun.throughout hkeep htyping
  | asRoot _ _ hrun => exact hrun.throughout hkeep htyping

theorem Throughout.undo (hs : s.Throughout P) : s.undo.1.Throughout P := by
  have hpast := hs.history
  unfold Session.undo Engine.undo
  cases hhistory : s.engine.history with
  | nil => exact hs
  | cons p history =>
    rw [hhistory] at hpast
    have hback : ∀ context pastContexts, Throughout P { s with
        engine := { s.engine with state := p.1, history, approval := none }
        context
        pastContexts } := fun _ _ =>
      ⟨hpast p List.mem_cons_self, fun q hq => hpast q (List.mem_cons_of_mem _ hq)⟩
    cases hcontexts : s.pastContexts with
    | nil => exact (hback s.context []).congr rfl
    | cons context pastContexts => exact hback context pastContexts

/-- **A call keeps what holds of all states.** -/
theorem Throughout.call (hs : s.Throughout P) (hkeep : Definition.Keep P) (t : Tutor)
    {c : SessionCall} (hc : c.Brings P) : (s.call t c).Throughout P := by
  cases c with
  | line text => exact hs.runLine hkeep t text
  | undo => exact hs.undo
  | advance now clock => exact hs.congr (advance_session s t now clock).1
  | revealHint clock => exact hs.congr (call_revealHint s t clock).1
  | startLab lab clock => exact ⟨hc, fun _ hp => absurd hp List.not_mem_nil⟩

theorem Throughout.calls (hs : s.Throughout P) (hkeep : Definition.Keep P)
    {cs : List (Tutor × SessionCall)} (hcs : ∀ c ∈ cs, c.2.Brings P) :
    (s.calls cs).Throughout P := by
  induction cs generalizing s with
  | nil => exact hs
  | cons c cs ih =>
    obtain ⟨hc, hrest⟩ := List.forall_mem_cons.1 hcs
    exact ih (hs.call hkeep c.1 hc) hrest

end Session

/-! ### Names of fields -/

/-- Whether the name of a field is a text. -/
def FieldName.isText : FieldName → Bool
  | .text _ => true
  | _ => false

/-- **The names of all fields of a state are texts.** -/
def Snapshot.Named (s : Snapshot) : Prop := s.Every fun field _ => field.isText = true

/-- The machines have texts as names of their fields. -/
theorem Content.named_machines : machines.Named :=
  Snapshot.every_of_forall_mem (by decide +kernel)

/-- Executions write to fields with texts as names. -/
theorem Definition.keep_named : Definition.Keep Snapshot.Named :=
  fun _ _ _ _ _ _ _ _ hx hs => hs.execution hx fun _ _ _ _ => rfl

end ClusterTutor
