import ClusterTutor.Program
import ClusterTutor.Proofs.Engine.Delta
import ClusterTutor.Proofs.Privilege.RootWrites

/-!
# What the commands of the tutor write

The commands that come with the tutor write little. This module reads off their
definitions, once, what the rest of the theory needs:

* no command declares anything of the actor (`ClusterTutor.Content.domain_ne_of_mem_writes`);
* every root-only write is guarded (`ClusterTutor.Content.guardsRootWrites`), so that it
  does not apply to what anyone but root is allowed;
* every other write is to one of three fields (`ClusterTutor.Content.openFields`).

So an execution that an ordinary actor is allowed changes at most those three fields
(`ClusterTutor.Content.keepsMachines_execution`). A command that is added to the tutor, or
whose writes are changed, is checked here and nowhere else.
-/

namespace ClusterTutor

namespace Content

/-- The fields that commands of the tutor write for everyone. -/
def openFields : List (String × FieldName) :=
  [("containers", "enroot_name"), ("containers", "gpus"), ("diagnostics", "last_run_level")]

/-- **The machines are kept** from one state to another when no field changes but those
that everyone may write, and no domain but theirs. -/
structure KeepsMachines (s s' : Snapshot) : Prop where
  /-- The domains without an open field are the same, their fields in the same order. -/
  domains : ∀ domain, domain ∉ openFields.map Prod.fst → s'.get? domain = s.get? domain
  /-- The other fields have the same values. -/
  fields : ∀ domain field, (domain, field) ∉ openFields →
    s'.value? domain field = s.value? domain field

namespace KeepsMachines

variable {s s' s'' : Snapshot}

theorem refl (s : Snapshot) : KeepsMachines s s := ⟨fun _ _ => rfl, fun _ _ _ => rfl⟩

theorem trans (h : KeepsMachines s s') (h' : KeepsMachines s' s'') : KeepsMachines s s'' where
  domains domain hdomain := (h'.domains domain hdomain).trans (h.domains domain hdomain)
  fields domain field hfield := (h'.fields domain field hfield).trans (h.fields domain field hfield)

end KeepsMachines

/-! ### Reading the definitions -/

theorem mem_commands_of_get? {command : String} {d : Definition}
    (h : Catalogue.standard.get? command = some d) : d ∈ commands := by
  obtain ⟨d', hd', he⟩ := List.mem_map.1 (OrderedMap.mem_of_get?_ofList h)
  obtain ⟨-, rfl⟩ := Prod.ext_iff.1 he
  exact hd'

variable {d : Definition} {w : Effect}

/-- Every command of the tutor is found under its name, since no two have the same. -/
theorem get?_of_mem_commands (hd : d ∈ commands) : Catalogue.standard.get? d.command = some d := by
  have hnodup : (commands.map Definition.command).Nodup := by decide
  obtain ⟨earlier, later, hsplit⟩ := List.append_of_mem hd
  rw [hsplit, List.map_append, List.map_cons] at hnodup
  have hlater : d.command ∉ later.map Definition.command :=
    (List.nodup_cons.1 (List.nodup_append.1 hnodup).2.1).1
  refine OrderedMap.get?_ofList_eq_some_iff.2
    ⟨earlier.map fun d => (d.command, d), later.map fun d => (d.command, d), ?_, ?_⟩
  · rw [hsplit, List.map_append, List.map_cons]
  · simpa using hlater

/-- The tokens that commands of the tutor declare are not empty and have no equals sign. -/
theorem plain_of_mem_tokens (hd : d ∈ commands) {t : String} (ht : t ∈ d.tokens) :
    t ≠ "" ∧ '=' ∉ t.toList := by
  have hall : ∀ d ∈ commands, ∀ t ∈ d.tokens, t ≠ "" ∧ '=' ∉ t.toList := by decide +kernel
  exact hall d hd t ht

/-- No command of the tutor changes who is acting. -/
theorem domain_ne_of_mem_writes (hd : d ∈ commands) (hw : w ∈ d.writes) :
    w.domain ≠ ExecutionContext.domain := by
  have hall : ∀ d ∈ commands, ∀ w ∈ d.writes, w.domain ≠ ExecutionContext.domain := by decide
  exact hall d hd w hw

/-- **The root-only writes of the tutor are guarded.** -/
theorem guardsRootWrites (hd : d ∈ commands) : d.GuardsRootWrites := by
  have hall : ∀ d ∈ commands, ∀ w ∈ d.writes, w.needsRoot = true →
      ∀ t ∈ w.flags.getD [], d.flagNeedsRoot t = true := by decide
  intro w hw hroot needed hneeded t ht
  refine hall d hd w hw hroot t ?_
  rwa [hneeded]

/-- **The other writes are open**: each is to one of the three fields. -/
theorem open_of_mem_writes (hd : d ∈ commands) (hw : w ∈ d.writes) (hroot : w.needsRoot = false) :
    w.domain ∈ openFields.map Prod.fst ∧ ∀ f ∈ w.fields, (w.domain, .text f) ∈ openFields := by
  have hall : ∀ d ∈ commands, ∀ w ∈ d.writes, w.needsRoot = false →
      w.domain ∈ openFields.map Prod.fst ∧
        ∀ f ∈ w.fields, (w.domain, FieldName.text f) ∈ openFields := by decide
  exact hall d hd w hw hroot

/-! ### Executions -/

variable {context : ExecutionContext} {i : Invocation} {s : Snapshot} {x : Execution}

/-- A command of the tutor ends with the actor it began with. -/
theorem context_execution (hd : d ∈ commands) (hx : d.execution? context i s = some x) :
    x.context = context :=
  Definition.context_execution_of_undeclared (fun _ hw _ => domain_ne_of_mem_writes hd hw) hx

/-- Only open writes apply to what an ordinary actor is allowed. -/
theorem needsRoot_eq_false_of_allowed (hd : d ∈ commands) (hcontext : context.isElevated = false)
    (hallowed : d.denial? context i s = none) (hw : w ∈ d.writes)
    (happ : w.applies i.flags.keys = true) : w.needsRoot = false := by
  by_contra hroot
  rw [Bool.not_eq_false] at hroot
  have hneeds := (guardsRootWrites hd).needsRoot hw hroot happ
  simp [Definition.denial?, hneeds, hcontext] at hallowed

/-- **What an ordinary actor is allowed keeps the machines.** -/
theorem keepsMachines_execution (hd : d ∈ commands) (hcontext : context.isElevated = false)
    (hallowed : d.denial? context i s = none) (hx : d.execution? context i s = some x) :
    KeepsMachines s x.state := by
  have hopen : ∀ w ∈ d.writes, w.applies i.flags.keys = true →
      w.domain ∈ openFields.map Prod.fst ∧ ∀ f ∈ w.fields, (w.domain, .text f) ∈ openFields :=
    fun w hw happ =>
      open_of_mem_writes hd hw (needsRoot_eq_false_of_allowed hd hcontext hallowed hw happ)
  have hdomains : ∀ domain, domain ∉ openFields.map Prod.fst →
      x.state.get? domain = s.get? domain := by
    intro domain hdomain
    refine Definition.get?_execution_of_undeclared (fun w hw happ => ?_) hx
    exact fun heq => hdomain (heq ▸ (hopen w hw happ).1)
  refine ⟨hdomains, fun domain field hfield => ?_⟩
  by_cases hactor : domain = ExecutionContext.domain
  · -- The actor is no part of the state, and has no open field.
    have hclosed : domain ∉ openFields.map Prod.fst := by
      rw [hactor]
      decide
    simp only [Snapshot.value?, hdomains domain hclosed]
  · rw [Definition.value?_execution hx hactor, Definition.value?_writtenBy, if_neg]
    · exact Option.none_or
    · rintro ⟨w, hw, happ, rfl, hdeclared⟩
      obtain ⟨f, hf, rfl⟩ := List.mem_map.1 hdeclared
      exact hfield ((hopen w hw happ).2 f hf)

end Content

end ClusterTutor
