import ClusterTutor.Proofs.Definition.Reading
import ClusterTutor.Proofs.Definition.Token
import ClusterTutor.Proofs.Engine.Executions

/-!
# Root-only writes are not for everyone

A write may be declared root-only. An invocation to which such a write applies should be
denied to every actor who is not root. Two decisions have to agree for this, and they look
at different things: the write applies when the token of a given flag is on its list, and
the invocation needs root when the token of *that token* is on the list of a root-only
write. The two tokens are the same unless the first one still ends with an equals sign.

So a definition keeps its root-only writes to root exactly when it *guards* them
(`ClusterTutor.Definition.GuardsRootWrites`): each flag that a root-only write lists needs
root by itself. This module proves that guarding is just what is needed
(`ClusterTutor.Catalogue.deniesRootWrites_iff`), that lists without equals signs at the
ends of their flags are always guarded, and that in a run over guarded definitions no
root-only write ever shows in what others have executed. A definition with a flag that
ends with an equals sign shows that not every definition is guarded
(`ClusterTutor.paddedFlag_write_without_privilege`).
-/

namespace ClusterTutor

namespace Definition

/-- **A definition guards its root-only writes** when each flag on their lists needs
root. -/
def GuardsRootWrites (d : Definition) : Prop :=
  ∀ w ∈ d.writes, w.needsRoot = true → ∀ needed, w.flags = some needed →
    ∀ t ∈ needed, d.flagNeedsRoot t = true

/-- A definition with its root-only writes struck out. -/
def withoutRootWrites (d : Definition) : Definition :=
  { d with
    interactions := d.interactions.map fun n =>
      { n with writes := n.writes.filter fun w => !w.needsRoot } }

variable {d : Definition} {flags : List String}

theorem writes_withoutRootWrites (d : Definition) :
    d.withoutRootWrites.writes = d.writes.filter fun w => !w.needsRoot := by
  unfold withoutRootWrites writes
  cases d.interactions <;> simp

/-- **Guarded writes need root**: where a root-only write applies, the invocation needs
root. -/
theorem GuardsRootWrites.needsRoot (h : d.GuardsRootWrites) {w : Effect} (hw : w ∈ d.writes)
    (hroot : w.needsRoot = true) (happ : w.applies flags = true) : d.needsRoot flags = true := by
  rw [needsRoot_iff]
  cases hneeded : w.flags with
  | none => exact Or.inr ⟨w, hw, hroot, hneeded⟩
  | some needed =>
    obtain ⟨f, hf, ht⟩ := w.applies_iff.1 happ needed hneeded
    exact Or.inl ⟨f, hf, h w hw hroot needed hneeded (tokenOf f) ht⟩

/-- A flag that needs root by itself is one that some root-only write is sure to see, or
that the notes speak of. For an invocation with this flag alone the two questions come to
the same. -/
theorem flagNeedsRoot_of_needsRoot_singleton {f : String} (h : d.needsRoot [f] = true) :
    d.flagNeedsRoot (tokenOf f) = true := by
  rcases d.needsRoot_iff.1 h with ⟨g, hg, hroot⟩ | ⟨w, hw, hroot, hnone⟩
  · obtain rfl : g = f := by simpa using hg
    exact hroot
  · exact (d.flagNeedsRoot_iff _).2 (Or.inl ⟨w, hw, hroot, by simp [hnone]⟩)

/-- Lists of flags that are their own tokens are guarded. -/
theorem guardsRootWrites_of_not_endsWithEquals {v : Value} (hread : ofValue v = .ok d)
    (h : ∀ w ∈ d.writes, w.needsRoot = true → ∀ needed, w.flags = some needed →
      ∀ t ∈ needed, ¬EndsWithEquals t) : d.GuardsRootWrites := by
  intro w hw hroot needed hneeded t ht
  obtain ⟨u, hu⟩ := exists_ofValue_of_mem_writes hread hw
  obtain ⟨s, rfl⟩ := Effect.exists_tokenOf_of_ofValue hu hneeded ht
  have hself : tokenOf (tokenOf s) = tokenOf s :=
    (tokenOf_eq_self_iff (undashed_tokenOf s)).2 (h w hw hroot needed hneeded _ ht)
  refine (d.flagNeedsRoot_iff _).2 (Or.inl ⟨w, hw, hroot, ?_⟩)
  intro needed' hneeded'
  obtain rfl : needed = needed' := by simpa [hneeded] using hneeded'
  rwa [hself]

/-- Where no root-only write applies, striking them out changes nothing. -/
theorem execution?_withoutRootWrites {i : Invocation}
    (h : ∀ w ∈ d.writes, w.needsRoot = true → w.applies i.flags.keys = false)
    (context : ExecutionContext) (s : Snapshot) :
    d.withoutRootWrites.execution? context i s = d.execution? context i s := by
  have hwrites : d.withoutRootWrites.writes.filter (·.applies i.flags.keys) =
      d.writes.filter (·.applies i.flags.keys) := by
    rw [writes_withoutRootWrites, List.filter_filter]
    refine List.filter_congr fun w hw => ?_
    cases hroot : w.needsRoot with
    | false => simp
    | true => simp [h w hw hroot]
  have hwritten : d.withoutRootWrites.writtenBy i = d.writtenBy i := by
    unfold writtenBy
    rw [hwrites]
  simp only [execution?, hwritten]

end Definition

/-! ### Denying -/

namespace Catalogue

/-- Whether all definitions were read from records. -/
def WasRead (c : Catalogue) : Prop :=
  ∀ command d, c.get? command = some d → ∃ v, Definition.ofValue v = .ok d

/-- Whether all definitions guard their root-only writes. -/
def GuardsRootWrites (c : Catalogue) : Prop :=
  ∀ command d, c.get? command = some d → d.GuardsRootWrites

/-- **A catalogue denies its root-only writes** when after any calls, and for flags in any
spelling, an invocation to which one of them applies is denied to all but root. -/
def DeniesRootWrites (c : Catalogue) : Prop :=
  ∀ state limit calls context command flags subcommands values d,
    c.get? command = some d → context.isElevated = false →
    ∀ w ∈ d.writes, w.needsRoot = true →
      w.applies (Invocation.make flags subcommands values).flags.keys = true →
      (((Engine.start c state limit).run calls).engine.check context command
        (.make flags subcommands values)).2 = some (.privilegeRequired d.command)

variable {c : Catalogue}

theorem check_of_needsRoot {e : Engine} (he : e.catalogue = c) {context : ExecutionContext}
    {command : String} {d : Definition} (hd : c.get? command = some d) {i : Invocation}
    (hroot : d.needsRoot i.flags.keys = true) (hcontext : context.isElevated = false) :
    (e.check context command i).2 = some (.privilegeRequired d.command) := by
  rw [Engine.check_snd, Engine.denial?, he, hd]
  simp [Definition.denial?, hroot, hcontext]

theorem GuardsRootWrites.deniesRootWrites (h : c.GuardsRootWrites) : c.DeniesRootWrites := by
  intro state limit calls context command flags subcommands values d hd hcontext w hw hroot happ
  refine check_of_needsRoot ?_ hd ?_ hcontext
  · exact Engine.catalogue_run _ calls
  · exact (h command d hd).needsRoot hw hroot happ

/-- A flag that ends with one more equals sign than a listed one makes the write apply,
and is given as such when it is typed with two more. -/
theorem keys_make_singleton (t : String) (ht : Undashed t) (v : Value) :
    (Invocation.make [(padded (padded t), v)] [] .empty).flags.keys = [padded t] := by
  have htoken : tokenOf (padded (padded t)) = padded t := tokenOf_padded (undashed_padded ht)
  simp [Invocation.make, htoken, OrderedMap.ofList, OrderedMap.keys_insert]

theorem DeniesRootWrites.guardsRootWrites (hread : c.WasRead) (h : c.DeniesRootWrites) :
    c.GuardsRootWrites := by
  intro command d hd w hw hroot needed hneeded t ht
  obtain ⟨v, hv⟩ := hread command d hd
  obtain ⟨u, hu⟩ := Definition.exists_ofValue_of_mem_writes hv hw
  obtain ⟨s, rfl⟩ := Effect.exists_tokenOf_of_ofValue hu hneeded ht
  have hundashed : Undashed (tokenOf s) := undashed_tokenOf s
  have hkeys := keys_make_singleton (tokenOf s) hundashed (.bool true)
  -- the flag is given alone, so nothing else can make the invocation need root
  have happ : w.applies (Invocation.make [(padded (padded (tokenOf s)), .bool true)] []
      .empty).flags.keys = true := by
    rw [hkeys, w.applies_iff]
    intro needed' hneeded'
    obtain rfl : needed = needed' := by simpa [hneeded] using hneeded'
    exact ⟨padded (tokenOf s), List.mem_singleton_self _, by rwa [tokenOf_padded hundashed]⟩
  have hdenied := h .empty 0 [] {} command _ [] .empty d hd rfl w hw hroot happ
  have hneeds : d.needsRoot [padded (tokenOf s)] = true := by
    by_contra hno
    simp [Engine.denial?, Engine.start, hd, Definition.denial?, hkeys, hno] at hdenied
  simpa [tokenOf_padded hundashed] using Definition.flagNeedsRoot_of_needsRoot_singleton hneeds

end Catalogue

/-- **An exchange spares the root-only writes** when none of them applied to what it
executed for an actor who is not root, and what was written is what the definition without
them writes. -/
def Exchange.SparesRootWrites (c : Catalogue) (ex : Exchange) : Prop :=
  ∀ context command i x, ex.Executes context command i x → context.isElevated = false →
    ∀ d, c.get? command = some d →
      (∀ w ∈ d.writes, w.needsRoot = true → w.applies i.flags.keys = false) ∧
        ∃ s, d.withoutRootWrites.execution? context i s = some x

namespace Catalogue

variable {c : Catalogue}

/-- Over guarded definitions, no run ever executes a root-only write for an actor who is
not root. -/
theorem GuardsRootWrites.sparesRootWrites (h : c.GuardsRootWrites) (state : Snapshot) (limit : Int)
    (calls : List EngineCall) :
    ∀ ex ∈ ((Engine.start c state limit).run calls).log, ex.SparesRootWrites c := by
  intro ex hex context command i x hx hcontext d hd
  have hholds : (Engine.start c state limit).ApprovalHolds := Engine.approvalHolds_of_none rfl
  obtain ⟨d', s, hd', hallowed, hexec⟩ := Engine.exists_execution_of_executes hholds calls hex hx
  obtain rfl : d = d' := by simpa [Engine.start, hd] using hd'
  have hspared : ∀ w ∈ d.writes, w.needsRoot = true → w.applies i.flags.keys = false := by
    intro w hw hroot
    by_contra happ
    rw [Bool.not_eq_false] at happ
    have hneeds := (h command d hd).needsRoot hw hroot happ
    simp [Definition.denial?, hneeds, hcontext] at hallowed
  exact ⟨hspared, s, (Definition.execution?_withoutRootWrites hspared context s).trans hexec⟩

/-- **Root-only writes are denied exactly where they are guarded.** Definitions that were
read deny their root-only writes to all but root, after any calls and for flags in any
spelling, exactly when each flag that such a write lists needs root by itself. Then no
root-only write ever contributes to what a run executes for anyone but root. Listed flags
that do not end with an equals sign are guarded. -/
theorem deniesRootWrites_iff (c : Catalogue) (hread : c.WasRead) :
    (c.DeniesRootWrites ↔ c.GuardsRootWrites) ∧
    (c.GuardsRootWrites → ∀ state limit calls,
      ∀ ex ∈ ((Engine.start c state limit).run calls).log, ex.SparesRootWrites c) ∧
    ((∀ command d, c.get? command = some d → ∀ w ∈ d.writes, w.needsRoot = true →
      ∀ needed, w.flags = some needed → ∀ t ∈ needed, ¬EndsWithEquals t) →
        c.GuardsRootWrites) := by
  refine ⟨⟨fun h => h.guardsRootWrites hread, fun h => h.deniesRootWrites⟩,
    fun h => h.sparesRootWrites, fun h command d hd => ?_⟩
  obtain ⟨v, hv⟩ := hread command d hd
  exact Definition.guardsRootWrites_of_not_endsWithEquals hv (h command d hd)

end Catalogue

/-! ### A guarded definition, and one that is not -/

/-- The record of a tool with one root-only write, on a listed flag. -/
def modeRecord (flag : String) : Value :=
  .object [
    ("command", .string "gpumode"),
    ("state_interactions", .object [
      ("writes_to", .array [
        .object [
          ("state_domain", .string "gpu_state"),
          ("fields", .array [.string "mode"]),
          ("requires_privilege", .string "root"),
          ("requires_flags", .array [.string flag])]])])]

/-- The definition of such a tool, with the token of the flag. -/
def modeTool (token : String) : Definition where
  command := "gpumode"
  synopsis := "gpumode"
  interactions := some {
    writes := [{
      domain := "gpu_state"
      fields := ["mode"]
      privilege := some "root"
      flags := some [token] }] }

theorem eq_modeTool_of_get? {token command : String} {d : Definition}
    (h : (Catalogue.ofDefinitions [modeTool token]).get? command = some d) :
    d = modeTool token := by
  simp only [Catalogue.get?, Catalogue.ofDefinitions, OrderedMap.ofList, List.map_cons,
    List.map_nil, OrderedMap.insertAll_cons, OrderedMap.insertAll_nil, OrderedMap.get?_insert,
    OrderedMap.get?_empty] at h
  split at h
  · exact (Option.some.inj h).symm
  · simp at h

/-- With a flag that does not end with an equals sign the tool is guarded. -/
theorem plainFlag_write_denied :
    (Catalogue.ofDefinitions [modeTool "set"]).WasRead ∧
      (Catalogue.ofDefinitions [modeTool "set"]).DeniesRootWrites := by
  have hread : (Catalogue.ofDefinitions [modeTool "set"]).WasRead := by
    intro command d hd
    obtain rfl := eq_modeTool_of_get? hd
    exact ⟨modeRecord "set", rfl⟩
  have hiff := Catalogue.deniesRootWrites_iff _ hread
  refine ⟨hread, hiff.1.2 (hiff.2.2 ?_)⟩
  intro command d hd w hw _ needed hneeded t ht
  obtain rfl := eq_modeTool_of_get? hd
  obtain rfl := List.mem_singleton.1 hw
  obtain rfl := Option.some.inj hneeded
  obtain rfl := List.mem_singleton.1 ht
  unfold EndsWithEquals
  decide

/-- **A root-only write that anyone can perform.** Where the listed flag ends with two
equals signs, of which one is left when it is read, the write applies to an invocation
that is allowed to an actor who is not root, and that then writes the field. -/
theorem paddedFlag_write_without_privilege :
    let i : Invocation :=
      .make [("set===", .bool true)] [] (.ofList [("mode", .string "Exclusive")])
    let e := Engine.start (.ofDefinitions [modeTool "set="]) .empty 100
    let actor : ExecutionContext := {}
    Definition.ofValue (modeRecord "set==") = .ok (modeTool "set=") ∧
    (∃ w ∈ (modeTool "set=").writes, w.needsRoot = true ∧ w.applies i.flags.keys = true) ∧
    actor.isElevated = false ∧
    (e.check actor "gpumode" i).2 = none ∧
    ∃ e' x, e.attempt actor "gpumode" i = (e', .ok (.ok x)) ∧
      x.delta.value? "gpu_state" "mode" = some (.string "Exclusive") := by
  refine ⟨rfl, ⟨_, List.mem_singleton_self _, by decide, by decide⟩, by decide, by decide, ?_⟩
  exact ⟨_, _, rfl, rfl⟩

end ClusterTutor
