import ClusterTutor.Proofs.Engine.ExecutionResult
import ClusterTutor.Proofs.Engine.Executions

/-!
# Executions as overlays

What an execution writes is settled by the definition and the invocation alone; the state and
the actor have no part in it. The new state is the old one with what is written laid over it.
So what comes of several executions is a matter of overlays, and these obey three laws.

| law | theorem |
|---|---|
| laying the same over twice is laying it over once | `ClusterTutor.Snapshot.overlay_overlay_self` |
| the order matters for common fields only | `ClusterTutor.Snapshot.value?_overlay_comm` |
| without common fields, the order is free | `ClusterTutor.Snapshot.sameContent_overlay_comm` |

The first law holds of states as they are, with their domains and fields in order. The last one
holds of their content only: domains and fields stand in the order in which they were first
written. All three are brought together in `ClusterTutor.Engine.executions_overlay`.
-/

namespace ClusterTutor

/-! ### Writing what is there -/

namespace OrderedMap

variable {κ α : Type} [DecidableEq κ]

theorem setEntry_of_findEntry {k : κ} {v : α} {es : List (κ × α)} (h : findEntry k es = some v) :
    setEntry k v es = es := by
  induction es with
  | nil => simp [findEntry] at h
  | cons e es ih =>
    by_cases hk : e.1 = k
    · have hv : e.2 = v := by simpa [findEntry, hk] using h
      simp [setEntry, ← hk, ← hv]
    · have hrest : findEntry k es = some v := by simpa [findEntry, hk] using h
      simp [setEntry, hk, ih hrest]

/-- Setting a key to the value that it has changes nothing. -/
theorem insert_of_get? {m : OrderedMap κ α} {k : κ} {v : α} (h : m.get? k = some v) :
    m.insert k v = m :=
  OrderedMap.ext (setEntry_of_findEntry h)

theorem insertAll_of_get? {m : OrderedMap κ α} {es : List (κ × α)}
    (h : ∀ e ∈ es, m.get? e.1 = some e.2) : m.insertAll es = m := by
  induction es with
  | nil => rfl
  | cons e es ih =>
    obtain ⟨he, hes⟩ := List.forall_mem_cons.1 h
    rw [insertAll_cons, insert_of_get? he, ih hes]

end OrderedMap

namespace Snapshot

variable {s new a b : Snapshot}

/-- **Laying over a state what it has** changes nothing. -/
theorem overlay_eq_self (h : ∀ d ∈ new.toList, ∃ old, s.get? d.1 = some old ∧
    ∀ f ∈ d.2.toList, old.get? f.1 = some f.2) : s.overlay new = s := by
  have hdomain : ∀ d ∈ new.toList, s.overlayDomain d.1 d.2 = s := by
    intro d hd
    obtain ⟨old, hold, hfields⟩ := h d hd
    have hsame : overlayFields old d.2 = old := OrderedMap.insertAll_of_get? hfields
    rw [overlayDomain, hold, Option.getD_some, hsame, OrderedMap.insert_of_get? hold]
  rw [overlay]
  generalize new.toList = ds at hdomain
  induction ds with
  | nil => rfl
  | cons d ds ih =>
    obtain ⟨hd, hds⟩ := List.forall_mem_cons.1 hdomain
    rw [List.foldl_cons, hd, ih hds]

/-- **Laying the same over twice** is laying it over once. -/
theorem overlay_overlay_self (s new : Snapshot) : (s.overlay new).overlay new = s.overlay new := by
  refine overlay_eq_self fun d hd => ?_
  have hkeys : d.1 ∈ (s.overlay new).keys :=
    (mem_keys_overlay s new d.1).2 (Or.inl (List.mem_map_of_mem hd))
  obtain ⟨old, hold⟩ := Option.isSome_iff_exists.1 (((s.overlay new).contains_iff d.1).2 hkeys)
  refine ⟨old, hold, fun f hf => ?_⟩
  have hdomain : new.get? d.1 = some d.2 := (new.mem_toList_iff d.1 d.2).1 hd
  have hfield : d.2.get? f.1 = some f.2 := (d.2.mem_toList_iff f.1 f.2).1 hf
  have hvalue := value?_overlay s new d.1 f.1
  simpa [value?, hold, hdomain, hfield] using hvalue

/-! ### Two overlays -/

/-- Whether a state has a field. -/
def Has (s : Snapshot) (domain : String) (field : FieldName) : Prop :=
  (s.value? domain field).isSome = true

instance (s : Snapshot) (domain : String) (field : FieldName) : Decidable (s.Has domain field) :=
  inferInstanceAs (Decidable (_ = true))

/-- Whether two states have a field in common. -/
def Share (a b : Snapshot) (domain : String) (field : FieldName) : Prop :=
  a.Has domain field ∧ b.Has domain field

/-- **States with the same content**: they have the same domains, with the same values of the
same fields. Nothing is said about the order in which these stand. -/
structure SameContent (s s' : Snapshot) : Prop where
  /-- The domains are the same. -/
  domains : ∀ domain, domain ∈ s.keys ↔ domain ∈ s'.keys
  /-- The fields are the same. -/
  fields : ∀ domain field, s.value? domain field = s'.value? domain field

/-- **Of two overlays the later one counts** where both have a field. -/
theorem value?_overlay_overlay (s a b : Snapshot) (domain : String) (field : FieldName) :
    ((s.overlay a).overlay b).value? domain field =
      (b.value? domain field).or ((a.value? domain field).or (s.value? domain field)) := by
  rw [value?_overlay, value?_overlay]

theorem value?_eq_none_of_not_share {domain : String} {field : FieldName} {v : Value}
    (hshare : ¬a.Share b domain field) (ha : a.value? domain field = some v) :
    b.value? domain field = none := by
  rw [← Option.not_isSome_iff_eq_none]
  exact fun hb => hshare ⟨Option.isSome_of_eq_some ha, hb⟩

/-- A field of an overlay is in the result unless a later overlay has it, too. -/
theorem value?_overlay_overlay_of_not_share {domain : String} {field : FieldName} {v : Value}
    (hshare : ¬a.Share b domain field)
    (h : a.value? domain field = some v ∨ b.value? domain field = some v) (s : Snapshot) :
    ((s.overlay a).overlay b).value? domain field = some v := by
  rw [value?_overlay_overlay]
  rcases h with h | h
  · simp [h, value?_eq_none_of_not_share hshare h]
  · simp [h]

/-- **The order of two overlays matters for common fields only.** -/
theorem value?_overlay_comm {domain : String} {field : FieldName}
    (hshare : ¬a.Share b domain field) (s : Snapshot) :
    ((s.overlay a).overlay b).value? domain field =
      ((s.overlay b).overlay a).value? domain field := by
  rw [value?_overlay_overlay, value?_overlay_overlay]
  cases ha : a.value? domain field with
  | none => simp
  | some v => simp [value?_eq_none_of_not_share hshare ha]

theorem mem_keys_overlay_comm (s a b : Snapshot) (domain : String) :
    domain ∈ ((s.overlay a).overlay b).keys ↔ domain ∈ ((s.overlay b).overlay a).keys := by
  simp only [mem_keys_overlay]
  exact or_left_comm

/-- **Two overlays without a common field can be exchanged.** -/
theorem sameContent_overlay_comm (h : ∀ domain field, ¬a.Share b domain field) (s : Snapshot) :
    ((s.overlay a).overlay b).SameContent ((s.overlay b).overlay a) where
  domains := mem_keys_overlay_comm s a b
  fields domain field := value?_overlay_comm (h domain field) s

end Snapshot

/-! ### Executions -/

namespace Definition

variable {d : Definition} {context : ExecutionContext} {i : Invocation} {s s' : Snapshot}

/-- **What is written does not depend on the state or the actor.** -/
theorem delta_execution {context' : ExecutionContext} {x y : Execution}
    (hx : d.execution? context i s = some x) (hy : d.execution? context' i s' = some y) :
    x.delta = y.delta := by
  obtain ⟨-, hdelta, -⟩ := execution?_eq_some_iff.1 hx
  obtain ⟨-, hdelta', -⟩ := execution?_eq_some_iff.1 hy
  rw [hdelta, hdelta']

/-- What is allowed is still allowed when there are more domains. -/
theorem denial?_eq_none_mono (hdomains : ∀ domain ∈ s.keys, domain ∈ s'.keys)
    (h : d.denial? context i s = none) : d.denial? context i s' = none := by
  unfold denial? at h ⊢
  split
  · rename_i hroot
    simp [hroot] at h
  · rename_i hroot
    rw [if_neg hroot] at h
    simp only [missingDomain?, Option.map_eq_none_iff, List.find?_eq_none] at h ⊢
    intro e he hlacks
    refine h e he ?_
    simp only [Bool.and_eq_true, Bool.not_eq_true', ← Bool.not_eq_true, s.contains_iff,
      s'.contains_iff] at hlacks ⊢
    exact ⟨hlacks.1, fun hmem => hlacks.2 (hdomains _ hmem)⟩

end Definition

namespace Engine

variable {e e' : Engine} {r : Request} {x : Execution}

/-- **An engine carries out a request**: it allows it and executes it, and this leads to another
engine. -/
def CarriesOut (e : Engine) (r : Request) (x : Execution) (e' : Engine) : Prop :=
  e.attempt r.context r.command r.invocation = (e', .ok (.ok x))

/-- An engine carries out what its definition allows, if it leads to something. -/
theorem carriesOut_after {d : Definition} (hd : e.catalogue.get? r.command = some d)
    (hallowed : d.denial? r.context r.invocation e.state = none)
    (hx : d.execution? r.context r.invocation e.state = some x) :
    e.CarriesOut r x (e.after r.context x) :=
  attempt_eq_ok_iff.2 ⟨d, hd, hallowed, hx, rfl⟩

/-- What carrying out a request comes to: the delta is laid over the state. -/
theorem CarriesOut.effect (h : e.CarriesOut r x e') :
    ∃ d, e.catalogue.get? r.command = some d ∧ d.denial? r.context r.invocation e.state = none ∧
      d.execution? r.context r.invocation e.state = some x ∧ e'.catalogue = e.catalogue ∧
      e'.state = e.state.overlay x.delta := by
  obtain ⟨d, hd, hallowed, hx, rfl⟩ := attempt_eq_ok_iff.1 h
  exact ⟨d, hd, hallowed, hx, rfl, (Definition.execution?_eq_some_iff.1 hx).2.2⟩

/-- After a request another one is carried out if the definition allows it then. -/
theorem CarriesOut.andThen (h : e.CarriesOut r x e') {q : Request} {d : Definition} {y : Execution}
    (hd : e.catalogue.get? q.command = some d)
    (hallowed : d.denial? q.context q.invocation e'.state = none)
    (hy : d.execution? q.context q.invocation e'.state = some y) :
    e'.CarriesOut q y (e'.after q.context y) := by
  obtain ⟨-, -, -, -, hcatalogue, -⟩ := h.effect
  exact carriesOut_after (hcatalogue ▸ hd) hallowed hy

/-- **Engines with the same definitions write the same** for a request. -/
theorem CarriesOut.delta_eq {f f' : Engine} {y : Execution} (h : e.CarriesOut r x e')
    (hf : f.CarriesOut r y f') (hcatalogue : f.catalogue = e.catalogue) : x.delta = y.delta := by
  obtain ⟨d, hd, -, hx, -, -⟩ := h.effect
  obtain ⟨d', hd', -, hy, -, -⟩ := hf.effect
  rw [hcatalogue] at hd'
  obtain rfl : d = d' := Option.some.inj (hd.symm.trans hd')
  exact Definition.delta_execution hx hy

/-- **A request that was carried out is carried out again**, and changes nothing more. -/
theorem CarriesOut.again (h : e.CarriesOut r x e') :
    ∃ e'' y, e'.CarriesOut r y e'' ∧ y.delta = x.delta ∧ e''.state = e'.state := by
  obtain ⟨d, hd, hallowed, hx, hcatalogue, hstate⟩ := h.effect
  have hdomains : ∀ domain ∈ e.state.keys, domain ∈ e'.state.keys := by
    intro domain hdomain
    rw [hstate]
    exact (Snapshot.mem_keys_overlay _ _ _).2 (Or.inr hdomain)
  -- Whether something comes of the request does not depend on the state either.
  obtain ⟨y, hy⟩ : ∃ y, d.execution? r.context r.invocation e'.state = some y :=
    (d.exists_execution_iff _ _ _).2 ((d.exists_execution_iff _ _ _).1 ⟨x, hx⟩)
  have hagain := h.andThen hd (Definition.denial?_eq_none_mono hdomains hallowed) hy
  have hdelta := hagain.delta_eq h hcatalogue.symm
  obtain ⟨-, -, -, -, -, hstate'⟩ := hagain.effect
  refine ⟨_, _, hagain, hdelta, ?_⟩
  rw [hstate', hdelta, hstate, Snapshot.overlay_overlay_self]

/-- The state after two requests is the state before with both deltas laid over it. -/
theorem CarriesOut.state_eq_overlay_overlay {e₁ e₁₂ e₂ : Engine} {r₁ r₂ : Request}
    {x₁ x₂ y : Execution} (h₁ : e.CarriesOut r₁ x₁ e₁) (h₁₂ : e₁.CarriesOut r₂ y e₁₂)
    (h₂ : e.CarriesOut r₂ x₂ e₂) :
    e₁₂.state = (e.state.overlay x₁.delta).overlay x₂.delta := by
  obtain ⟨-, -, -, -, hcatalogue, hstate⟩ := h₁.effect
  obtain ⟨-, -, -, -, -, hstate'⟩ := h₁₂.effect
  rw [hstate', hstate, h₁₂.delta_eq h₂ hcatalogue.symm]

/-- **Executions are overlays.** Whatever the states of the engines:

* what is written depends on the definitions, the command and the invocation only;
* a request that was carried out can be carried out again, and leaves the state as it is;
* of two requests that can be carried out in both orders, the later one decides about the
  fields that both write, and about all other fields the order makes no difference; if
  they write no field in common, both orders lead to the same content, which has the fields
  of both. -/
theorem executions_overlay :
    (∀ (e f : Engine) c c' context context' command i x y, f.catalogue = e.catalogue →
      Exchange.Executes ⟨c, (e.respond c).2⟩ context command i x →
      Exchange.Executes ⟨c', (f.respond c').2⟩ context' command i y → x.delta = y.delta) ∧
    (∀ (e e' : Engine) r x, e.CarriesOut r x e' →
      ∃ e'' y, e'.CarriesOut r y e'' ∧ e''.state = e'.state) ∧
    ∀ (e e₁ e₂ e₁₂ e₂₁ : Engine) r₁ r₂ x₁ x₂ y₁ y₂,
      e.CarriesOut r₁ x₁ e₁ → e₁.CarriesOut r₂ y₂ e₁₂ →
      e.CarriesOut r₂ x₂ e₂ → e₂.CarriesOut r₁ y₁ e₂₁ →
        (∀ domain field, x₁.delta.Share x₂.delta domain field →
          e₁₂.state.value? domain field = x₂.delta.value? domain field ∧
            e₂₁.state.value? domain field = x₁.delta.value? domain field) ∧
        (∀ domain field, ¬x₁.delta.Share x₂.delta domain field →
          e₁₂.state.value? domain field = e₂₁.state.value? domain field) ∧
        ((∀ domain field, ¬x₁.delta.Share x₂.delta domain field) →
          e₁₂.state.SameContent e₂₁.state ∧
            ∀ domain field v, x₁.delta.value? domain field = some v ∨
              x₂.delta.value? domain field = some v →
                e₁₂.state.value? domain field = some v) := by
  refine ⟨fun e f c c' context context' command i x y hcatalogue hx hy => ?_,
    fun e e' r x h => ?_, fun e e₁ e₂ e₁₂ e₂₁ r₁ r₂ x₁ x₂ y₁ y₂ h₁ h₁₂ h₂ h₂₁ => ?_⟩
  · obtain ⟨d, hd, hexec, -⟩ := (step_respond e c).performed hx
    obtain ⟨d', hd', hexec', -⟩ := (step_respond f c').performed hy
    rw [hcatalogue] at hd'
    obtain rfl : d = d' := Option.some.inj (hd.symm.trans hd')
    exact Definition.delta_execution hexec hexec'
  · obtain ⟨e'', y, hagain, -, hstate⟩ := h.again
    exact ⟨e'', y, hagain, hstate⟩
  · rw [h₁.state_eq_overlay_overlay h₁₂ h₂, h₂.state_eq_overlay_overlay h₂₁ h₁]
    refine ⟨fun domain field hshare => ?_, fun domain field hshare => ?_, fun hapart => ⟨?_, ?_⟩⟩
    · obtain ⟨v₁, hv₁⟩ := Option.isSome_iff_exists.1 hshare.1
      obtain ⟨v₂, hv₂⟩ := Option.isSome_iff_exists.1 hshare.2
      simp [hv₁, hv₂]
    · exact Snapshot.value?_overlay_comm hshare e.state
    · exact Snapshot.sameContent_overlay_comm hapart e.state
    · intro domain field v hv
      exact Snapshot.value?_overlay_overlay_of_not_share (hapart domain field) hv e.state

end Engine

/-! ### A cap set twice -/

/-- A request of an ordinary actor to set the cap, and the mode where one is given. -/
def capRequest (cap : Int) (mode : List (String × Value)) : Engine.Request where
  context := {}
  command := "gpureset"
  invocation := .make [] [] (.ofList (("power.cap", .int cap) :: mode))

/-- Two requests set the cap, and one of them the mode. In both orders the later cap counts, and
the mode is the same. -/
theorem caps_set_in_both_orders :
    let e := Engine.start (.ofDefinitions [resetTool]) .empty 100
    let r₁ := capRequest 300 [("mode", .string "Exclusive")]
    let r₂ := capRequest 250 []
    ∃ e₁ e₂ e₁₂ e₂₁ x₁ x₂ y₁ y₂,
      e.CarriesOut r₁ x₁ e₁ ∧ e₁.CarriesOut r₂ y₂ e₁₂ ∧
      e.CarriesOut r₂ x₂ e₂ ∧ e₂.CarriesOut r₁ y₁ e₂₁ ∧
      e₁₂.state.value? "power" "cap" = some (.int 250) ∧
      e₂₁.state.value? "power" "cap" = some (.int 300) ∧
      e₁₂.state.value? "gpu_state" "mode" = e₂₁.state.value? "gpu_state" "mode" := by
  intro e r₁ r₂
  have hd : e.catalogue.get? "gpureset" = some resetTool := rfl
  have h₁ := Engine.carriesOut_after (r := r₁) hd rfl rfl
  have h₂ := Engine.carriesOut_after (r := r₂) hd rfl rfl
  have h₁₂ := h₁.andThen (q := r₂) hd rfl rfl
  have h₂₁ := h₂.andThen (q := r₁) hd rfl rfl
  obtain ⟨hcommon, hother, -⟩ := Engine.executions_overlay.2.2 _ _ _ _ _ _ _ _ _ _ _ h₁ h₁₂ h₂ h₂₁
  obtain ⟨hcap, hcap'⟩ := hcommon "power" "cap" ⟨rfl, rfl⟩
  refine ⟨_, _, _, _, _, _, _, _, h₁, h₁₂, h₂, h₂₁, hcap.trans rfl, hcap'.trans rfl,
    hother "gpu_state" "mode" fun hshare => ?_⟩
  exact absurd hshare.2 (by decide)

end ClusterTutor
