import ClusterTutor.Proofs.Number.Numeral
import ClusterTutor.Proofs.Session.States

/-!
# Numbers that can be shown

A whole number can be shown only if it has no more digits than can be read. The state of a
session holds no other: the machines are set up without one, what a line writes was read of
a word, and undoing brings back what was there before. A lab may set a number of its own, so
this is so of the labs that do not set a longer one (`ClusterTutor.Session.Showable.calls`).
-/

namespace ClusterTutor

/-- **A state can be shown** when all whole numbers in its fields, and in their names, can. -/
def Snapshot.Showable (s : Snapshot) : Prop :=
  ∀ domain field v, s.value? domain field = some v →
    field.toValue.isShowable = true ∧ v.isShowable = true

theorem Snapshot.Showable.overlay {s new : Snapshot} (h : s.Showable) (hnew : new.Showable) :
    (s.overlay new).Showable :=
  Every.overlay h hnew

/-- The machines are set up with numbers that can be shown. -/
theorem Content.showable_machines : machines.Showable :=
  Snapshot.every_of_forall_mem (by decide +kernel)

/-- **Executions lead to states that can be shown.** -/
theorem Definition.keep_showable : Definition.Keep Snapshot.Showable :=
  fun _ _ _ hi _ _ _ _ hx hs =>
    Snapshot.Every.execution hs hx fun _ _ hv _ => ⟨rfl, Invocation.showable_of_ofLine hi _ _ hv⟩

/-! ### Sessions -/

/-- Whether a call sets no number that cannot be shown. Only the lab that is started may. -/
def SessionCall.Showable : SessionCall → Prop
  | .startLab lab _ => lab.initialState.Showable
  | _ => True

/-- What a call brings can be shown, if it sets no number that cannot. -/
theorem SessionCall.Showable.brings {c : SessionCall} (h : c.Showable) :
    c.Brings Snapshot.Showable := by
  cases c with
  | startLab lab clock => exact Content.showable_machines.overlay h
  | _ => trivial

namespace Session

/-- **A session can be shown** when its state can, and every state that it can go back to. -/
structure Showable (s : Session) : Prop where
  /-- The state can be shown. -/
  state : s.state.Showable
  /-- The earlier states can be shown. -/
  history : ∀ p ∈ s.engine.history, p.1.Showable

variable {s : Session}

theorem showable_iff_throughout : s.Showable ↔ s.Throughout Snapshot.Showable :=
  ⟨fun h => ⟨h.state, h.history⟩, fun h => ⟨h.state, h.history⟩⟩

theorem showable_start (t : Tutor) (profile : ProfileNumber) (clock : Magnitude) :
    (start t profile clock).Showable :=
  showable_iff_throughout.2 (throughout_start Content.showable_machines t profile clock)

/-- **A line leaves a session that can be shown.** -/
theorem Showable.runLine (hs : s.Showable) (t : Tutor) (line : String) :
    (runLine t s line).session.Showable :=
  showable_iff_throughout.2 ((showable_iff_throughout.1 hs).runLine Definition.keep_showable t line)

/-- **Calls keep a session showable**, if they start no lab that sets a number too long to be
shown. -/
theorem Showable.calls (hs : s.Showable) {cs : List (Tutor × SessionCall)}
    (hcs : ∀ c ∈ cs, c.2.Showable) : (s.calls cs).Showable :=
  showable_iff_throughout.2
    ((showable_iff_throughout.1 hs).calls Definition.keep_showable fun c hc =>
      (hcs c hc).brings)

end Session

end ClusterTutor
