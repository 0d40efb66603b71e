import ClusterTutor.Proofs.Engine.Approval
import ClusterTutor.Proofs.Session.WriteValues

/-!
# The result of an execution

An execution gathers what the effects write, one domain after the other, takes out the domain
that stands for the actor, and overlays the state with the rest. This module describes the
result without the two folds, by what each field is written
(`ClusterTutor.Definition.writtenValue?`): of the effects that apply, declare the field and
have a value for it, the last one counts.

| part of the result | domains | a field |
|---|---|---|
| delta | those of which a field is written, except the actor's | what is written to it |
| state | those before and those of the delta | the delta's, or else the one before |
| context | – | the text of what is written to it in the actor's domain, or else the one before |

That an execution comes to this (`ClusterTutor.Engine.execute_of_approved`) has two halves.
Field by field it is `ClusterTutor.Definition.value?_writtenBy`. That the delta has no further
domains needs more: an effect without values leaves no domain behind, so that no domain in the
delta is empty (`ClusterTutor.Definition.mem_keys_writtenBy`).

There is no result when a value that is written to the actor has no text.
-/

namespace ClusterTutor

/-! ### Domains with fields -/

namespace Snapshot

/-- Whether each domain of a state has a field. -/
def HasFields (s : Snapshot) : Prop :=
  ∀ domain ∈ s.keys, ∃ field, (s.value? domain field).isSome = true

/-- Only domains have fields. -/
theorem mem_keys_of_value? {s : Snapshot} {domain : String} {field : FieldName}
    (h : (s.value? domain field).isSome = true) : domain ∈ s.keys := by
  rw [← OrderedMap.contains_iff, OrderedMap.contains]
  unfold value? at h
  cases hs : s.get? domain with
  | none => simp [hs] at h
  | some fields => rfl

theorem hasFields_empty : HasFields .empty := by
  intro domain h
  simp at h

/-- Writing some fields to a domain keeps fields everywhere. -/
theorem HasFields.overlayDomain {s : Snapshot} (h : s.HasFields) (domain : String) {fields : Fields}
    (hfields : fields.isEmpty = false) : (s.overlayDomain domain fields).HasFields := by
  intro domain' hmem
  rw [Snapshot.overlayDomain, OrderedMap.mem_keys_insert] at hmem
  by_cases hdomain : domain = domain'
  · have hne : fields.toList ≠ [] := fun hnil => by simp [OrderedMap.isEmpty, hnil] at hfields
    obtain ⟨e, he⟩ := List.exists_mem_of_ne_nil _ hne
    have hget : fields.get? e.1 = some e.2 := (fields.mem_toList_iff e.1 e.2).1 he
    exact ⟨e.1, by simp [value?_overlayDomain, hdomain, hget]⟩
  · have hbefore : domain' ∈ s.keys := hmem.resolve_left fun heq => hdomain heq.symm
    obtain ⟨field, hfield⟩ := h domain' hbefore
    exact ⟨field, by simpa [value?_overlayDomain, hdomain] using hfield⟩

/-- In such a state the domains are those of which a field has a value. -/
theorem HasFields.mem_keys_iff {s : Snapshot} (h : s.HasFields) (domain : String) :
    domain ∈ s.keys ↔ ∃ field, (s.value? domain field).isSome = true :=
  ⟨h domain, fun ⟨_, hfield⟩ => mem_keys_of_value? hfield⟩

end Snapshot

namespace Definition

/-- What effects write has a field in each domain, since an effect without values is passed
over. -/
theorem hasFields_foldl_written (i : Invocation) (es : List Effect) {s : Snapshot}
    (h : s.HasFields) :
    (es.foldl
        (fun s e => if (e.written i).isEmpty then s else s.overlayDomain e.domain (e.written i))
        s).HasFields := by
  induction es generalizing s with
  | nil => exact h
  | cons e es ih =>
    rw [List.foldl_cons]
    refine ih ?_
    split
    · exact h
    · rename_i hwritten
      exact h.overlayDomain e.domain (by simpa using hwritten)

/-- **The domains written are those of which a field is written.** -/
theorem mem_keys_writtenBy (d : Definition) (i : Invocation) (domain : String) :
    domain ∈ (d.writtenBy i).keys ↔
      ∃ field, ((d.writtenBy i).value? domain field).isSome = true :=
  (hasFields_foldl_written i _ Snapshot.hasFields_empty).mem_keys_iff domain

/-! ### What is written to a field -/

/-- What an invocation writes to a field: the last of the effects that apply, declare the field
and have a value for it decides. -/
def writtenValue? (d : Definition) (i : Invocation) (domain : String) (field : FieldName) :
    Option Value :=
  (lastEffect? d.writes i.flags.keys fun e =>
    e.Declares domain field ∧ (i.suppliedTo? e.domain field).isSome = true).bind
      fun e => i.suppliedTo? e.domain field

/-- **Going through the effects in order writes what the last one writes.** -/
theorem value?_writtenBy_eq (d : Definition) (i : Invocation) (domain : String)
    (field : FieldName) : (d.writtenBy i).value? domain field = d.writtenValue? i domain field := by
  rw [value?_writtenBy, writtenValue?]
  cases hlast : lastEffect? d.writes i.flags.keys fun e =>
      e.Declares domain field ∧ (i.suppliedTo? e.domain field).isSome = true with
  | some e =>
    obtain ⟨hmem, happ, hdecl, -⟩ := of_lastEffect?_eq_some hlast
    rw [if_pos ⟨e, hmem, happ, hdecl⟩, Option.bind_some, hdecl.1]
  | none =>
    rw [Option.bind_none]
    split
    · rename_i hex
      obtain ⟨e, hmem, happ, hdecl⟩ := hex
      have hunsupplied := lastEffect?_eq_none_iff.1 hlast e hmem happ
      rw [hdecl.1] at hunsupplied
      simpa [hdecl] using hunsupplied
    · rfl

end Definition

/-! ### The whole result -/

/-- **What executing an invocation leads to**, by what is written to each field. -/
structure Execution.ComesOf (x : Execution) (d : Definition) (context : ExecutionContext)
    (i : Invocation) (s : Snapshot) : Prop where
  /-- A field of the delta has what is written to it. The actor's fields are not in the delta. -/
  delta_value : ∀ domain field, x.delta.value? domain field =
    if domain = ExecutionContext.domain then none else d.writtenValue? i domain field
  /-- The delta has the domains of its fields and no others. -/
  delta_domains : ∀ domain, domain ∈ x.delta.keys ↔
    domain ≠ ExecutionContext.domain ∧ ∃ field, (d.writtenValue? i domain field).isSome = true
  /-- The state has its old domains and those of the delta. -/
  state_domains : ∀ domain, domain ∈ x.state.keys ↔ domain ∈ s.keys ∨ domain ∈ x.delta.keys
  /-- A field of the state is as in the delta where it is in the delta, and as before elsewhere. -/
  state_value : ∀ domain field,
    x.state.value? domain field = (x.delta.value? domain field).or (s.value? domain field)
  /-- With nothing in the delta the state is the one before. -/
  state_of_empty : x.delta.isEmpty = true → x.state = s
  /-- The actor's domain is not put into the state, nor changed in it. -/
  state_actor : x.state.get? ExecutionContext.domain = s.get? ExecutionContext.domain
  /-- The privilege is the text of what is written to the actor, or the one before. -/
  privilege : (d.writtenValue? i ExecutionContext.domain "privilege").elim
    (some context.privilege) Value.shown? = some x.context.privilege
  /-- The allocations are those written to the actor, or those before. -/
  allocations : (d.writtenValue? i ExecutionContext.domain "allocations").elim
    (some context.allocations) ExecutionContext.allocationsOf? = some x.context.allocations

namespace Definition

variable {d : Definition} {context : ExecutionContext} {i : Invocation} {s : Snapshot}
  {x : Execution}

/-- What is written to the actor can be shown if the privilege and the allocations can. -/
theorem actorShown_iff :
    d.ActorShown i ↔ ∀ v, d.writtenValue? i ExecutionContext.domain "privilege" = some v ∨
      d.writtenValue? i ExecutionContext.domain "allocations" = some v → v.isShowable = true := by
  simp only [ActorShown, value?_writtenBy_eq, or_imp, forall_and]

/-- The actor after an execution has what is written to the actor. -/
theorem context_execution (hx : d.execution? context i s = some x) :
    (d.writtenValue? i ExecutionContext.domain "privilege").elim
        (some context.privilege) Value.shown? = some x.context.privilege ∧
      (d.writtenValue? i ExecutionContext.domain "allocations").elim
        (some context.allocations) ExecutionContext.allocationsOf? =
          some x.context.allocations := by
  obtain ⟨hcontext, -, -⟩ := execution?_eq_some_iff.1 hx
  simp only [← value?_writtenBy_eq, Snapshot.value?]
  cases hfields : (d.writtenBy i).get? ExecutionContext.domain with
  | none =>
    rw [hfields] at hcontext
    simp [← Option.some.inj hcontext]
  | some fields =>
    rw [hfields] at hcontext
    obtain ⟨privilege, hprivilege, allocations, hallocations, hwritten⟩ :
        ∃ privilege, (fields.get? "privilege").elim (some context.privilege) Value.shown? =
            some privilege ∧ ∃ allocations, (fields.get? "allocations").elim
            (some context.allocations) ExecutionContext.allocationsOf? = some allocations ∧
            ExecutionContext.mk privilege allocations = x.context := by
      simpa [ExecutionContext.write?, Option.bind_eq_some_iff] using hcontext
    rw [← hwritten]
    exact ⟨hprivilege, hallocations⟩

/-- **An execution is described field by field.** -/
theorem comesOf_execution (hx : d.execution? context i s = some x) : x.ComesOf d context i s := by
  obtain ⟨-, hwritten, hstate⟩ := execution?_eq_some_iff.1 hx
  have hkeys (domain : String) : domain ∈ x.delta.keys ↔
      domain ≠ ExecutionContext.domain ∧ domain ∈ (d.writtenBy i).keys := by
    rw [hwritten, OrderedMap.keys_erase, List.mem_filter, decide_eq_true_iff, and_comm]
  refine
    { delta_value := fun domain field => ?_
      delta_domains := fun domain => ?_
      state_domains := fun domain => ?_
      state_value := fun domain field => ?_
      state_of_empty := fun hempty => ?_
      state_actor := ?_
      privilege := (context_execution hx).1
      allocations := (context_execution hx).2 }
  · rw [← value?_writtenBy_eq, hwritten, Snapshot.value?, OrderedMap.get?_erase]
    split
    · rfl
    · rfl
  · rw [hkeys, mem_keys_writtenBy]
    simp only [value?_writtenBy_eq]
  · rw [hstate]
    exact (Snapshot.mem_keys_overlay s _ domain).trans or_comm
  · rw [hstate]
    exact Snapshot.value?_overlay s _ domain field
  · have hnil : x.delta.toList = [] := List.isEmpty_iff.1 hempty
    simp only [hstate, Snapshot.overlay, hnil, List.foldl_nil]
  · rw [hstate]
    refine get?_foldl_overlayDomain ?_ s
    intro hmem
    exact ((hkeys _).1 hmem).1 rfl

end Definition

/-- **An approved invocation of a known command is executed**, and field by field the result is
what the effects write. Only if the privilege or the allocations that are written to the actor
cannot be shown, the execution fails, and nothing but the approval is gone. Either way the
commands of the engine stay as they are. -/
theorem Engine.execute_of_approved {e : Engine} {context : ExecutionContext} {command : String}
    {i : Invocation} {d : Definition} (hd : e.catalogue.get? command = some d)
    (happroved : e.approved context command i = true) :
    let written := d.writtenValue? i ExecutionContext.domain
    let shown := ∀ v, written "privilege" = some v ∨ written "allocations" = some v →
      v.isShowable = true
    (shown → ∃ e' x, e.execute context command i = (e', .ok x) ∧ x.ComesOf d context i e.state ∧
      e'.state = x.state ∧ e'.catalogue = e.catalogue) ∧
    (¬shown → e.execute context command i =
      ({ e with approval := none }, .error .numberTooLong)) := by
  intro written shown
  have hshown : d.ActorShown i ↔ shown := d.actorShown_iff
  rw [← hshown]
  refine ⟨fun h => ?_, execute_of_not_actorShown hd happroved⟩
  obtain ⟨x, hx⟩ := (d.exists_execution_iff context i e.state).2 h
  exact ⟨e.after context x, x, execute_eq_ok_iff.2 ⟨d, hd, happroved, hx, rfl⟩,
    Definition.comesOf_execution hx, rfl, rfl⟩

/-! ### A tool that writes a field twice -/

/-- A tool that writes the mode of a GPU, again with the level if it is to reset it, and the
privilege of the actor. -/
def resetTool : Definition where
  command := "gpureset"
  synopsis := "gpureset"
  interactions := some {
    writes := [
      { domain := "gpu_state", fields := ["mode"] },
      { domain := "gpu_state", fields := ["mode", "level"], flags := some ["reset"] },
      { domain := "power", fields := ["cap"] },
      { domain := ExecutionContext.domain, fields := ["privilege"] }] }

/-- A reset with values for all fields but the cap, that of the mode under both its names. -/
def resetInvocation : Invocation :=
  .make [("--reset", .bool true)] []
    (.ofList [("mode", .string "Default"), ("gpu_state.mode", .string "Exclusive"),
      ("level", .int 3), ("privilege", .string "root")])

/-- An engine that has approved of the reset for an ordinary actor. -/
def resetEngine : Engine :=
  ((Engine.start (.ofDefinitions [resetTool]) .empty 100).check {} "gpureset" resetInvocation).1

/-- The reset sets the mode by its longer name and no cap, and the actor becomes root. -/
theorem reset_comes_of_tool :
    resetEngine.catalogue.get? "gpureset" = some resetTool ∧
    resetEngine.approved {} "gpureset" resetInvocation = true ∧
    ∃ e' x, resetEngine.execute {} "gpureset" resetInvocation = (e', .ok x) ∧
      x.delta.value? "gpu_state" "mode" = some (.string "Exclusive") ∧
      x.delta.value? "power" "cap" = none ∧ x.context.privilege = "root" := by
  have hd : resetEngine.catalogue.get? "gpureset" = some resetTool := rfl
  have happroved : resetEngine.approved {} "gpureset" resetInvocation = true := rfl
  have hprivilege : resetTool.writtenValue? resetInvocation ExecutionContext.domain "privilege" =
      some (.string "root") := rfl
  have hshown (v : Value) (hv : resetTool.writtenValue? resetInvocation
      ExecutionContext.domain "privilege" = some v ∨ resetTool.writtenValue? resetInvocation
      ExecutionContext.domain "allocations" = some v) : v.isShowable = true := by
    rcases hv with hv | hv
    · rw [← Option.some.inj (hprivilege.symm.trans hv)]
      rfl
    · cases hv
  obtain ⟨e', x, hexec, hx, -, -⟩ := (Engine.execute_of_approved hd happroved).1 hshown
  refine ⟨hd, happroved, e', x, hexec, ?_, ?_, ?_⟩
  · rw [hx.delta_value]
    rfl
  · rw [hx.delta_value]
    rfl
  · have hroot := hx.privilege
    rw [hprivilege] at hroot
    exact (Option.some.inj hroot).symm

end ClusterTutor
