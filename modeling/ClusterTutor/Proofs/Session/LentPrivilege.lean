import ClusterTutor.Proofs.Engine.ExecutionResult
import ClusterTutor.Proofs.Session.Overlong

/-!
# Privilege that is lent and privilege that is written

A command may write to the actor: its privilege, and the resources allocated to it. A line
under `sudo` runs its command as root, and the session takes the lent privilege back
afterwards. Whether there is something to take back it does not know; it goes by whether the
execution ended with the privilege that it began with.

| the line | privilege that is written | the session afterwards |
|---|---|---|
| any | none | has the privilege it had |
| not under `sudo` | any | has the written one |
| under `sudo` | one other than root's | has the written one |
| under `sudo` | root's | has the privilege it had |

In the last row the write is taken for what was lent. It is lost, unless the session was root
anyway. This is the only write that is lost (`ClusterTutor.Session.context_of_executes`); the
allocations are always as written, and no line leaves an actor root who was not told so by the
command.
-/

namespace ClusterTutor

namespace Definition

/-- The privilege that an invocation writes to the actor, if it writes one. -/
def writtenPrivilege? (d : Definition) (i : Invocation) : Option String :=
  (d.writtenValue? i ExecutionContext.domain "privilege").bind Value.shown?

/-- The allocations that an invocation writes to the actor, if it writes any. -/
def writtenAllocations? (d : Definition) (i : Invocation) : Option NameSet :=
  (d.writtenValue? i ExecutionContext.domain "allocations").bind ExecutionContext.allocationsOf?

variable {d : Definition} {acting : ExecutionContext} {i : Invocation} {state : Snapshot}
  {x : Execution}

theorem privilege_execution (hx : d.execution? acting i state = some x) :
    x.context.privilege = (d.writtenPrivilege? i).getD acting.privilege := by
  have hprivilege := (context_execution hx).1
  rw [writtenPrivilege?]
  cases hv : d.writtenValue? i ExecutionContext.domain "privilege" with
  | none =>
    rw [hv] at hprivilege
    exact (Option.some.inj hprivilege).symm
  | some v =>
    rw [hv, Option.elim_some] at hprivilege
    rw [Option.bind_some, hprivilege, Option.getD_some]

theorem allocations_execution (hx : d.execution? acting i state = some x) :
    x.context.allocations = (d.writtenAllocations? i).getD acting.allocations := by
  have hallocations := (context_execution hx).2
  rw [writtenAllocations?]
  cases hv : d.writtenValue? i ExecutionContext.domain "allocations" with
  | none =>
    rw [hv] at hallocations
    exact (Option.some.inj hallocations).symm
  | some v =>
    rw [hv, Option.elim_some] at hallocations
    rw [Option.bind_some, hallocations, Option.getD_some]

end Definition

/-- What a line resolves to by definitions: the definition of the command that it runs, and the
invocation. -/
def Catalogue.Resolves (c : Catalogue) (line : String) (d : Definition) (i : Invocation) : Prop :=
  ∃ typed, Session.commandLine? line = some typed ∧
    c.get? (ParsedLine.ofLine none typed).command = some d ∧
    Invocation.ofLine d (ParsedLine.ofLine d.schema? typed) = .ok i

namespace Session

variable {s : Session} {t : Tutor} {line : String} {d : Definition} {i : Invocation}

/-! ### The definitions of a session -/

/-- Running a line leaves the definitions of the engine alone. -/
theorem CommandRun.catalogue_eq {acting : ExecutionContext} {tracked : String} {r : Run}
    (h : CommandRun t s line acting tracked r) :
    r.session.engine.catalogue = s.engine.catalogue := by
  cases h with
  | rejected _ => rfl
  | overlong _ => rfl
  | executed _ _ _ hatt =>
    obtain ⟨d, -, -, -, rfl⟩ := Engine.attempt_eq_ok_iff.1 hatt
    rfl

theorem catalogue_runLine (t : Tutor) (s : Session) (line : String) :
    (runLine t s line).session.engine.catalogue = s.engine.catalogue := by
  have hexits := lineRun_runLine t s line
  generalize runLine t s line = r at hexits ⊢
  cases hexits with
  | blank _ => rfl
  | answered _ _ => rfl
  | refused _ => rfl
  | asActor _ _ hrun => exact hrun.catalogue_eq
  | asRoot _ _ hrun => exact hrun.catalogue_eq

theorem catalogue_undo (s : Session) : s.undo.1.engine.catalogue = s.engine.catalogue := by
  unfold undo Engine.undo
  cases s.engine.history with
  | nil => rfl
  | cons p history => cases s.pastContexts <;> rfl

/-- **Every call leaves the definitions of the engine alone**, or takes up those of the tutor. -/
theorem catalogue_call (hs : s.engine.catalogue = t.catalogue) (c : SessionCall) :
    (s.call t c).engine.catalogue = t.catalogue := by
  cases c with
  | line text => rw [call, catalogue_runLine, hs]
  | undo => rw [call, catalogue_undo, hs]
  | advance now clock =>
    obtain ⟨hengine, -, -⟩ := advance_session s t now clock
    simp only [call, hengine, hs]
  | revealHint clock => rw [(call_revealHint s t clock).1, hs]
  | startLab lab clock => rfl

/-- A session whose calls were all with a tutor of the same definitions has these. -/
theorem catalogue_calls {c : Catalogue} (hs : s.engine.catalogue = c)
    {cs : List (Tutor × SessionCall)} (hcs : ∀ call ∈ cs, call.1.catalogue = c) :
    (s.calls cs).engine.catalogue = c := by
  induction cs generalizing s with
  | nil => exact hs
  | cons call cs ih =>
    obtain ⟨hcall, hrest⟩ := List.forall_mem_cons.1 hcs
    refine ih ?_ hrest
    rw [← hcall]
    exact catalogue_call (hs.trans hcall.symm) call.2

/-! ### What an execution leaves of the actor -/

@[simp] theorem context_afterExecution (s : Session) (engine : Engine) (acting : ExecutionContext)
    (x : Execution) (tracked : String) :
    (s.afterExecution engine acting x tracked).context = s.contextAfter acting x.context := rfl

@[simp] theorem contextAfter_typing (s : Session) (line : String)
    (acting after : ExecutionContext) :
    (s.typing line).contextAfter acting after = s.contextAfter acting after := rfl

/-- The actor of a session that has lent nothing is the one that the execution ended with. -/
theorem contextAfter_context (s : Session) (after : ExecutionContext) :
    s.contextAfter s.context after = after := by
  unfold contextAfter
  split
  · rename_i hkept
    rw [← hkept]
  · rfl

/-- No allocations are lent, so none are taken back. -/
theorem allocations_contextAfter (s : Session) (acting after : ExecutionContext) :
    (s.contextAfter acting after).allocations = after.allocations := by
  unfold contextAfter
  split <;> rfl

/-- A session that has lent the privilege of root takes it back from an execution that ends with
it. -/
theorem privilege_contextAfter_elevated (s : Session) (after : ExecutionContext) :
    (s.contextAfter s.context.elevated after).privilege =
      if after.privilege = rootPrivilege then s.context.privilege else after.privilege := by
  unfold contextAfter
  split
  · rename_i hkept
    exact (if_pos hkept).symm
  · rename_i hchanged
    exact (if_neg hchanged).symm

/-- **A line that executes a command** resolves, and leaves the actor that the execution of what
it resolves to ends with, less what was lent. -/
theorem exists_resolves_of_executes (hs : s.engine.catalogue = t.catalogue)
    (h : s.executes t line = true) :
    ∃ d i x, t.catalogue.Resolves line d i ∧
      d.execution? (s.lineActor line) i s.state = some x ∧
      (runLine t s line).session.context = s.contextAfter (s.lineActor line) x.context := by
  rcases runLine_cases t s line with ⟨-, hno, -⟩ | ⟨typed, htyped, hrun⟩
  · rw [hno] at h
    exact absurd h Bool.false_ne_true
  · have hends : (runLine t s line).endsWell = true := by
      rw [executes, Bool.and_eq_true] at h
      exact h.2
    have hexits := commandRun_runCommand t (s.typing line) typed (s.lineActor line) (Text.trim line)
    rw [hrun] at hends ⊢
    generalize runCommand t (s.typing line) typed (s.lineActor line) (Text.trim line) = r
      at hexits hends ⊢
    cases hexits with
    | rejected hstatus => simp [Run.endsWell, hstatus] at hends
    | overlong _ => simp [Run.endsWell] at hends
    | @executed d i engine x hd _ hi hatt =>
      obtain ⟨d', hd', -, hx, -⟩ := Engine.attempt_eq_ok_iff.1 hatt
      -- The engine looks the command up in its own definitions, which are the tutor's.
      have hsame : s.engine.catalogue.get? (ParsedLine.ofLine none typed).command = some d := by
        rw [hs, hd]
      obtain rfl : d = d' := Option.some.inj (hsame.symm.trans hd')
      refine ⟨d, i, x, ⟨typed, htyped, hd, hi⟩, hx, ?_⟩
      rw [context_afterExecution, contextAfter_typing]

/-- **A write of root's privilege that is lost**: the line is under `sudo`, and the actor is not
root without it. -/
def LosesPrivilege (s : Session) (line : String) (d : Definition) (i : Invocation) : Prop :=
  (ParsedLine.ofLine none (Text.trim line)).command = "sudo" ∧
    d.writtenPrivilege? i = some rootPrivilege ∧ s.context.privilege ≠ rootPrivilege

instance (s : Session) (line : String) (d : Definition) (i : Invocation) :
    Decidable (s.LosesPrivilege line d i) :=
  inferInstanceAs (Decidable (_ ∧ _ ∧ _))

section Execution

variable {state : Snapshot} {x : Execution}
  (hx : d.execution? (s.lineActor line) i state = some x)

include hx

/-- **The privilege after an execution** is the one that was written, or else the one before, but
where it is lost. -/
theorem privilege_contextAfter_execution :
    (s.contextAfter (s.lineActor line) x.context).privilege =
      if s.LosesPrivilege line d i then s.context.privilege
      else (d.writtenPrivilege? i).getD s.context.privilege := by
  have hprivilege := Definition.privilege_execution hx
  by_cases hsudo : (ParsedLine.ofLine none (Text.trim line)).command = "sudo"
  · rw [lineActor, if_pos hsudo] at hprivilege ⊢
    rw [privilege_contextAfter_elevated, hprivilege]
    cases hwritten : d.writtenPrivilege? i with
    | none => simp [LosesPrivilege, hwritten, ExecutionContext.elevated]
    | some p =>
      by_cases hroot : p = rootPrivilege
      · by_cases hbefore : s.context.privilege = rootPrivilege
        · simp [LosesPrivilege, hwritten, hroot, hbefore]
        · simp [LosesPrivilege, hsudo, hwritten, hroot, hbefore]
      · simp [LosesPrivilege, hwritten, hroot]
  · have hkept : ¬s.LosesPrivilege line d i := fun h => hsudo h.1
    rw [lineActor, if_neg hsudo] at hprivilege ⊢
    rw [contextAfter_context, hprivilege, if_neg hkept]

/-- The allocations after an execution are those that were written, or else those before. -/
theorem allocations_contextAfter_execution :
    (s.contextAfter (s.lineActor line) x.context).allocations =
      (d.writtenAllocations? i).getD s.context.allocations := by
  have hlent : (s.lineActor line).allocations = s.context.allocations := by
    unfold lineActor
    split <;> rfl
  rw [allocations_contextAfter, Definition.allocations_execution hx, hlent]

end Execution

/-- **The actor after a line that executes a command.** In a session after any calls, with the
same definitions throughout, a line that executes a command resolves to an invocation of it, and
afterwards:

* the allocations are those that were written, or else those before;
* the privilege is the one that was written, or else the one before, except exactly where the
  line is under `sudo`, the session was not root, and root's privilege was written;
* there the session has the privilege that it had before. -/
theorem context_of_executes {opened t : Tutor} (profile : ProfileNumber) (clock : Magnitude)
    {cs : List (Tutor × SessionCall)} (hopened : opened.catalogue = t.catalogue)
    (hcs : ∀ c ∈ cs, c.1.catalogue = t.catalogue) {line : String}
    (h : ((start opened profile clock).calls cs).executes t line = true) :
    let s := (start opened profile clock).calls cs
    let after := (runLine t s line).session.context
    ∃ d i, t.catalogue.Resolves line d i ∧
      after.allocations = (d.writtenAllocations? i).getD s.context.allocations ∧
      (after.privilege = (d.writtenPrivilege? i).getD s.context.privilege ↔
        ¬s.LosesPrivilege line d i) ∧
      (s.LosesPrivilege line d i → after.privilege = s.context.privilege) := by
  intro s after
  have hs : s.engine.catalogue = t.catalogue := catalogue_calls hopened hcs
  obtain ⟨d, i, x, hresolves, hx, hcontext⟩ := exists_resolves_of_executes hs h
  have hprivilege : after.privilege =
      if s.LosesPrivilege line d i then s.context.privilege
      else (d.writtenPrivilege? i).getD s.context.privilege := by
    rw [← privilege_contextAfter_execution hx, ← hcontext]
  have hallocations : after.allocations =
      (d.writtenAllocations? i).getD s.context.allocations := by
    rw [← allocations_contextAfter_execution hx, ← hcontext]
  refine ⟨d, i, hresolves, hallocations, ⟨fun hhonoured hlost => ?_, fun hkept => ?_⟩,
    fun hlost => ?_⟩
  · rw [hprivilege, if_pos hlost, hlost.2.1] at hhonoured
    exact hlost.2.2 hhonoured
  · rw [hprivilege, if_neg hkept]
  · rw [hprivilege, if_pos hlost]

/-! ### A tool that changes the actor -/

/-- The tool `su`, that writes its word to the privilege of the actor. -/
def suTool : Definition where
  command := "su"
  synopsis := "su"
  interactions := some {
    writes := [{ domain := ExecutionContext.domain, fields := ["privilege"] }] }

/-- A tutor whose only command is `su`. -/
def suTutor : Tutor := { Tutor.standard with catalogue := .ofDefinitions [suTool] }

/-- The line that makes the actor root. -/
def suRootLine : ParsedLine where
  command := "su"
  subcommands := ["root"]

theorem ofLine_suRootLine : ParsedLine.ofLine suTool.schema? "su root" = suRootLine := by
  have hwords : CommandLine.words? (Text.trim "su root") = some ["su", "root"] := by decide
  have hparts : CommandLine.partsOf suTool.schema? ["root"] = [.word "root"] := by decide
  rw [ParsedLine.ofLine, hwords]
  simp only [Option.getD_some, ParsedLine.ofWords, hparts]
  rfl

/-- Under `sudo` a user becomes somebody other than root, and no write is lost. -/
theorem su_operator_kept_under_sudo :
    let s := (start suTutor 1 (.whole 0)).calls [(suTutor, .line "whoami")]
    s.executes suTutor "sudo su operator" = true ∧
      (runLine suTutor s "sudo su operator").session.context.privilege = "operator" ∧
      ∃ d i, suTutor.catalogue.Resolves "sudo su operator" d i ∧
        ¬s.LosesPrivilege "sudo su operator" d i := by
  have hopened : suTutor.catalogue = suTutor.catalogue := rfl
  have hcalls : ∀ c ∈ [(suTutor, SessionCall.line "whoami")],
      c.1.catalogue = suTutor.catalogue := by simp
  have hexec : ((start suTutor 1 (.whole 0)).calls [(suTutor, .line "whoami")]).executes suTutor
      "sudo su operator" = true := by decide +kernel
  have hchanged : (runLine suTutor ((start suTutor 1 (.whole 0)).calls
      [(suTutor, .line "whoami")]) "sudo su operator").session.context.privilege ≠
        ((start suTutor 1 (.whole 0)).calls [(suTutor, .line "whoami")]).context.privilege := by
    decide +kernel
  obtain ⟨d, i, hresolves, -, -, hlost⟩ := context_of_executes 1 (.whole 0) hopened hcalls hexec
  exact ⟨hexec, by decide +kernel, d, i, hresolves, fun h => hchanged (hlost h)⟩

/-- **A write that is lost.** An ordinary user who runs `su root` is root afterwards. Under
`sudo` the same line writes the same privilege, and leaves an ordinary user. -/
theorem su_root_lost_under_sudo :
    let s := start suTutor 1 (.whole 0)
    (s.executes suTutor "su root" = true ∧
      (runLine suTutor s "su root").session.context.privilege = "root") ∧
    s.executes suTutor "sudo su root" = true ∧
      (∃ i, suTutor.catalogue.Resolves "sudo su root" suTool i ∧
        suTool.writtenPrivilege? i = some "root") ∧
      (runLine suTutor s "sudo su root").session.context.privilege = "user" := by
  refine ⟨⟨by decide +kernel, by decide +kernel⟩, by decide +kernel, ?_, by decide +kernel⟩
  refine ⟨.make [] [] (.ofList [("execution_context.privilege", .string "root")]),
    ⟨"su root", by decide +kernel, by decide +kernel, ?_⟩, by decide +kernel⟩
  rw [ofLine_suRootLine]
  rfl

end Session

end ClusterTutor
