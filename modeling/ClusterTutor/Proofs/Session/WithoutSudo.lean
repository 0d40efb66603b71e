import ClusterTutor.Proofs.Content.Commands
import ClusterTutor.Proofs.Session.UndoStack

/-!
# Sessions without root

Only root may reconfigure the machines, and only `sudo` makes anybody root. This module
shows both for the commands that come with the tutor, from what a learner types to what
becomes of the machines:

* no line makes the actor of a session anybody but the one who began it, not even a line
  under `sudo` (`ClusterTutor.Session.Ordinary.calls`);
* as long as no line is under `sudo`, the machines are kept
  (`ClusterTutor.Session.Keeping.calls`).

Undoing brings back what was saved, so both are invariants of what a session holds and of
what it has saved. Neither of them looks at the words of a line: what a definition makes of
them, and what the engine allows, is settled in
`ClusterTutor.Content.keepsMachines_execution` for every invocation there is.
-/

namespace ClusterTutor

namespace SessionCall

/-- Whether a call sets the system up anew. -/
def restarts : SessionCall → Bool
  | .startLab _ _ => true
  | _ => false

/-- Whether a call is a line of which the first word is `sudo`. -/
def usesSudo : SessionCall → Bool
  | .line text => (ParsedLine.ofLine none (Text.trim text)).command == "sudo"
  | _ => false

end SessionCall

namespace Session

/-- **A session at its beginning**, with the commands that come with the tutor: it has
just been opened, or a lab has just been started in it. -/
inductive Fresh : Session → Prop where
  /-- The session has just been opened. -/
  | opened {t : Tutor} {profile : ProfileNumber} {clock : Magnitude} :
    t.catalogue = .standard → Fresh (start t profile clock)
  /-- A lab has just been started in the session. -/
  | restarted {s : Session} {t : Tutor} {lab : Lab} {clock : Magnitude} :
    t.catalogue = .standard → Fresh (s.startLab t lab clock)

/-- **The actor is an ordinary user**, and was one before every line that can be undone. -/
structure Ordinary (s : Session) : Prop where
  /-- There is an actor for every state. -/
  paired : s.Paired
  /-- The engine knows the commands of the tutor. -/
  catalogue : s.engine.catalogue = .standard
  /-- The actor has no privilege and no allocations. -/
  context : s.context = {}
  /-- Nor had the actor before. -/
  pastContexts : ∀ c ∈ s.pastContexts, c = {}

/-- **The machines are kept** as they are in `base`, and were so before every line that
can be undone. -/
structure Keeping (base : Snapshot) (s : Session) : Prop where
  /-- The machines are kept. -/
  state : Content.KeepsMachines base s.state
  /-- They were kept before. -/
  history : ∀ p ∈ s.engine.history, Content.KeepsMachines base p.1

variable {s s' : Session} {t : Tutor} {base : Snapshot}

theorem Ordinary.congr (h : s.Ordinary) (he : s'.engine = s.engine) (hc : s'.context = s.context)
    (hp : s'.pastContexts = s.pastContexts) : s'.Ordinary where
  paired := h.paired.congr he hp
  catalogue := by rw [he, h.catalogue]
  context := by rw [hc, h.context]
  pastContexts := by rw [hp]; exact h.pastContexts

theorem Keeping.congr (h : Keeping base s) (he : s'.engine = s.engine) : Keeping base s' where
  state := by rw [Session.state, he]; exact h.state
  history := by rw [he]; exact h.history

/-- A session at its beginning has an ordinary actor, and nothing to undo. -/
theorem Fresh.ordinary (h : s.Fresh) : s.Ordinary := by
  cases h with
  | opened hc => exact ⟨⟨rfl, rfl, Nat.zero_le _⟩, hc, rfl, by simp [start]⟩
  | restarted hc => exact ⟨⟨rfl, rfl, Nat.zero_le _⟩, hc, rfl, by simp [startLab, resetStep]⟩

theorem Fresh.keeping (h : s.Fresh) : Keeping s.state s := by
  refine ⟨.refl _, fun p hp => ?_⟩
  cases h <;> simp [start, startLab, resetStep, Engine.start] at hp

/-! ### Lines -/

/-- An attempt that executes something runs a command of the tutor. -/
theorem Ordinary.of_attempt_eq_ok (hs : s.Ordinary) {acting : ExecutionContext} {command : String}
    {i : Invocation} {engine : Engine} {x : Execution}
    (h : s.engine.attempt acting command i = (engine, .ok (.ok x))) :
    ∃ d ∈ Content.commands, d.denial? acting i s.state = none ∧
      d.execution? acting i s.state = some x ∧ engine = s.engine.after acting x := by
  obtain ⟨d, hd, hallowed, hx, hengine⟩ := Engine.attempt_eq_ok_iff.1 h
  rw [hs.catalogue] at hd
  exact ⟨d, Content.mem_commands_of_get? hd, hallowed, hx, hengine⟩

/-- **Running a command leaves the actor alone**, whatever privilege it was lent. -/
theorem CommandRun.ordinary {line tracked : String} {acting : ExecutionContext} {r : Run}
    (h : CommandRun t s line acting tracked r) (hs : s.Ordinary)
    (hacting : acting.allocations = s.context.allocations) : r.session.Ordinary := by
  have hpaired := h.paired hs.paired
  cases h with
  | rejected _ => exact hs.congr rfl rfl rfl
  | overlong _ => exact hs
  | @executed _ _ _ x _ _ _ hatt =>
    obtain ⟨d, hd, -, hx, rfl⟩ := hs.of_attempt_eq_ok hatt
    -- The command ends with the actor it was run as, and the session takes the lent
    -- privilege back.
    have hback : s.contextAfter acting x.context = s.context := by
      rw [Content.context_execution hd hx]
      simp [contextAfter, hacting]
    refine ⟨hpaired, hs.catalogue, ?_, fun c hc => ?_⟩
    · exact hback.trans hs.context
    · rcases List.mem_cons.1 (mem_of_mem_dropOldest hc) with rfl | hpast
      · exact hs.context
      · exact hs.pastContexts c hpast

/-- **Running a command as an ordinary user keeps the machines.** -/
theorem CommandRun.keeping {line tracked : String} {acting : ExecutionContext} {r : Run}
    (h : CommandRun t s line acting tracked r) (hs : s.Ordinary) (hkeep : Keeping base s)
    (hacting : acting.isElevated = false) : Keeping base r.session := by
  cases h with
  | rejected _ => exact hkeep.congr rfl
  | overlong _ => exact hkeep
  | executed _ _ _ hatt =>
    obtain ⟨d, hd, hallowed, hx, rfl⟩ := hs.of_attempt_eq_ok hatt
    refine ⟨hkeep.state.trans (Content.keepsMachines_execution hd hacting hallowed hx), ?_⟩
    intro p hp
    rcases List.mem_cons.1 (mem_of_mem_dropOldest hp) with rfl | hpast
    · exact hkeep.state
    · exact hkeep.history p hpast

theorem Ordinary.runLine (hs : s.Ordinary) (t : Tutor) (line : String) :
    (runLine t s line).session.Ordinary := by
  have htyping : (s.typing line).Ordinary := hs.congr rfl rfl rfl
  have hexits := lineRun_runLine t s line
  generalize Session.runLine t s line = r at hexits ⊢
  cases hexits with
  | blank _ => exact hs
  | answered _ _ => exact htyping
  | refused _ => exact hs.congr rfl rfl rfl
  -- The lent privilege is no allocation, so both are the same to the session.
  | asActor _ _ hrun => exact hrun.ordinary htyping rfl
  | asRoot _ _ hrun => exact hrun.ordinary htyping rfl

/-- **A line that is not under `sudo` keeps the machines.** -/
theorem Keeping.runLine (hkeep : Keeping base s) (hs : s.Ordinary) (t : Tutor) {line : String}
    (hsudo : (ParsedLine.ofLine none (Text.trim line)).command ≠ "sudo") :
    Keeping base (runLine t s line).session := by
  have htyping : (s.typing line).Ordinary := hs.congr rfl rfl rfl
  have hactor : s.context.isElevated = false := by
    rw [hs.context]
    rfl
  have hexits := lineRun_runLine t s line
  generalize Session.runLine t s line = r at hexits ⊢
  cases hexits with
  | blank _ => exact hkeep
  | answered _ _ => exact hkeep.congr rfl
  | refused _ => exact hkeep.congr rfl
  | asActor _ _ hrun => exact hrun.keeping htyping (hkeep.congr rfl) hactor
  | asRoot _ h _ => exact absurd h hsudo

/-! ### Undoing -/

theorem Ordinary.undo (hs : s.Ordinary) : s.undo.1.Ordinary := by
  have hpaired := hs.paired.undo
  rcases undo_cases hs.paired with
    ⟨-, -, hundo⟩ | ⟨p, history, context, pastContexts, -, hp, hundo⟩
  · rw [hundo]
    exact hs
  · rw [hundo] at hpaired ⊢
    have hpast := hs.pastContexts
    rw [hp] at hpast
    exact ⟨hpaired, hs.catalogue, hpast context List.mem_cons_self,
      fun c hc => hpast c (List.mem_cons_of_mem _ hc)⟩

theorem Keeping.undo (hkeep : Keeping base s) (hs : s.Paired) : Keeping base s.undo.1 := by
  rcases undo_cases hs with ⟨-, -, hundo⟩ | ⟨p, history, context, pastContexts, hh, -, hundo⟩
  · rw [hundo]
    exact hkeep
  · rw [hundo]
    have hpast := hkeep.history
    rw [hh] at hpast
    exact ⟨hpast p List.mem_cons_self, fun q hq => hpast q (List.mem_cons_of_mem _ hq)⟩

/-! ### All calls -/

/-- **No call makes the actor anybody else**, unless it sets the system up anew. -/
theorem Ordinary.call (hs : s.Ordinary) (t : Tutor) {c : SessionCall} (hc : c.restarts = false) :
    (s.call t c).Ordinary := by
  cases c with
  | line text => exact hs.runLine t text
  | undo => exact hs.undo
  | advance now clock =>
    obtain ⟨hengine, hcontext, hpast⟩ := advance_session s t now clock
    exact hs.congr hengine hcontext hpast
  | revealHint clock =>
    obtain ⟨hengine, hcontext, hpast⟩ := call_revealHint s t clock
    exact hs.congr hengine hcontext hpast
  | startLab lab clock => simp [SessionCall.restarts] at hc

/-- **A call that does not use `sudo` keeps the machines**, unless it sets the system up
anew. -/
theorem Keeping.call (hkeep : Keeping base s) (hs : s.Ordinary) (t : Tutor) {c : SessionCall}
    (hc : c.restarts = false) (hsudo : c.usesSudo = false) : Keeping base (s.call t c) := by
  cases c with
  | line text => exact hkeep.runLine hs t (by simpa [SessionCall.usesSudo] using hsudo)
  | undo => exact hkeep.undo hs.paired
  | advance now clock => exact hkeep.congr (advance_session s t now clock).1
  | revealHint clock => exact hkeep.congr (call_revealHint s t clock).1
  | startLab lab clock => simp [SessionCall.restarts] at hc

theorem Ordinary.calls (hs : s.Ordinary) {cs : List (Tutor × SessionCall)}
    (hcs : ∀ c ∈ cs, c.2.restarts = false) : (s.calls cs).Ordinary := by
  induction cs generalizing s with
  | nil => exact hs
  | cons c cs ih =>
    obtain ⟨hc, hrest⟩ := List.forall_mem_cons.1 hcs
    exact ih (hs.call c.1 hc) hrest

theorem Keeping.calls (hkeep : Keeping base s) (hs : s.Ordinary)
    {cs : List (Tutor × SessionCall)} (hcs : ∀ c ∈ cs, c.2.restarts = false)
    (hsudo : ∀ c ∈ cs, c.2.usesSudo = false) : Keeping base (s.calls cs) := by
  induction cs generalizing s with
  | nil => exact hkeep
  | cons c cs ih =>
    obtain ⟨hc, hrest⟩ := List.forall_mem_cons.1 hcs
    obtain ⟨hno, hnone⟩ := List.forall_mem_cons.1 hsudo
    exact ih (hkeep.call hs c.1 hc hno) (hs.call c.1 hc) hrest hnone

/-- **Without `sudo` the machines cannot be reconfigured.** In a session at its beginning,
after any calls that do not set the system up anew:

* the actor is the one who began, an ordinary user, with the same allocations;
* if no line was under `sudo`, the GPUs, the cluster, the fabric and the management
  controller are as they were, with every field in its place, and no field of any domain has
  another value than it had, but for the level of the last diagnostics, the GPUs of a
  container and its name. -/
theorem machines_kept_without_sudo {s : Session} (hs : s.Fresh) {cs : List (Tutor × SessionCall)}
    (hcs : ∀ c ∈ cs, c.2.restarts = false) :
    ((s.calls cs).context = s.context ∧ (s.calls cs).context.privilege = userPrivilege) ∧
    ((∀ c ∈ cs, c.2.usesSudo = false) →
      (∀ domain ∈ ["gpu_state", "cluster_state", "fabric_state", "bmc_state"],
        (s.calls cs).state.get? domain = s.state.get? domain) ∧
      ∀ domain field,
        (domain, field) ∉ [("containers", FieldName.text "enroot_name"),
          ("containers", .text "gpus"), ("diagnostics", .text "last_run_level")] →
        (s.calls cs).state.value? domain field = s.state.value? domain field) := by
  have hafter := hs.ordinary.calls hcs
  refine ⟨⟨hafter.context.trans hs.ordinary.context.symm, by rw [hafter.context]⟩, ?_⟩
  intro hsudo
  obtain ⟨hdomains, hfields⟩ := (hs.keeping.calls hs.ordinary hcs hsudo).state
  have hclosed : ∀ domain ∈ ["gpu_state", "cluster_state", "fabric_state", "bmc_state"],
      domain ∉ Content.openFields.map Prod.fst := by decide
  exact ⟨fun domain hdomain => hdomains domain (hclosed domain hdomain), hfields⟩

/-- A learner who is denied the persistence mode of the GPUs may run the diagnostics all
the same, and finds the GPUs as they were. -/
theorem gpus_kept_by_diagnostics :
    (((start .standard 1 (.whole 0)).calls [(.standard, .line "nvidia-smi -pm 1"),
      (.standard, .line "dcgmi diag -r 3")]).state.value? "diagnostics" "last_run_level").map
        Value.text = some "3" ∧
    ((start .standard 1 (.whole 0)).calls [(.standard, .line "nvidia-smi -pm 1"),
      (.standard, .line "dcgmi diag -r 3")]).state.get? "gpu_state" =
        (start .standard 1 (.whole 0)).state.get? "gpu_state" := by
  have hfresh : (start .standard 1 (.whole 0)).Fresh := .opened rfl
  have hcalls : ∀ c ∈ [(Tutor.standard, SessionCall.line "nvidia-smi -pm 1"),
      (.standard, .line "dcgmi diag -r 3")], c.2.restarts = false := by decide
  have hkept := (machines_kept_without_sudo hfresh hcalls).2 (by decide)
  exact ⟨by decide +kernel, hkept.1 "gpu_state" (by decide)⟩

end Session

end ClusterTutor
