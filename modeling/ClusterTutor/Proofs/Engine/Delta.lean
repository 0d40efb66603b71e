import ClusterTutor.Proofs.Data.Except
import ClusterTutor.Simulation.Engine

/-!
# What an execution writes, field by field

An execution goes through the effects that apply and overlays what each of them writes.
Read field by field, the order of the effects does not matter: the value of a field is
looked up under the name of the field, so all effects that declare it write the same
(`ClusterTutor.Definition.value?_writtenBy`). The new state has what was written, and
everything else as it was (`ClusterTutor.Definition.value?_execution`).

What is written to the actor is kept as a text. An execution comes to nothing when it
writes a privilege or allocations there that have none, and only then
(`ClusterTutor.Definition.exists_execution_iff`).

A domain that no effect declares is kept as a whole, with its fields in their order
(`ClusterTutor.Definition.get?_execution_of_undeclared`), and an execution that declares
nothing of the actor leaves the actor alone.
-/

namespace ClusterTutor

variable {domain : String} {field : FieldName}

namespace Effect

/-- Whether an effect declares a field of a domain. -/
def Declares (e : Effect) (domain : String) (field : FieldName) : Prop :=
  e.domain = domain ∧ field ∈ e.fields.map FieldName.text

instance (e : Effect) (domain : String) (field : FieldName) :
    Decidable (e.Declares domain field) :=
  inferInstanceAs (Decidable (_ ∧ _))

/-- Only texts are declared. -/
theorem Declares.exists_text {e : Effect} (h : e.Declares domain field) :
    ∃ f, field = .text f := by
  obtain ⟨f, -, hf⟩ := List.mem_map.1 h.2
  exact ⟨f, hf.symm⟩

end Effect

/-- The value supplied for a field of any name. Only texts have one. -/
def Invocation.suppliedTo? (i : Invocation) (domain : String) : FieldName → Option Value
  | .text f => i.supplied? domain f
  | _ => none

theorem Invocation.exists_get?_of_suppliedTo? {i : Invocation} {v : Value}
    (h : i.suppliedTo? domain field = some v) : ∃ name, i.values.get? name = some v := by
  cases field with
  | text f =>
    simp only [suppliedTo?, supplied?] at h
    split at h
    · rename_i w hw
      exact ⟨_, hw.trans h⟩
    · exact ⟨f, h⟩
  | _ => cases h

/-- Fields that are looked up one after the other bind the fields that are found. -/
theorem get?_insertAll_supplied (i : Invocation) (domain : String) (fs : List String) (m : Fields)
    (field : FieldName) :
    (m.insertAll (fs.filterMap fun f => (i.supplied? domain f).map fun v => (.text f, v))).get?
        field =
      if field ∈ fs.map FieldName.text then (i.suppliedTo? domain field).or (m.get? field)
      else m.get? field := by
  induction fs generalizing m with
  | nil => simp
  | cons f fs ih =>
    cases hf : i.supplied? domain f with
    | none =>
      rw [List.filterMap_cons_none (by simp [hf]), ih]
      by_cases h : field = .text f
      · simp [h, Invocation.suppliedTo?, hf]
      · simp [h]
    | some v =>
      rw [List.filterMap_cons_some (b := (.text f, v)) (by simp [hf]), OrderedMap.insertAll_cons,
        ih]
      by_cases h : field = .text f
      · subst h
        simp [Invocation.suppliedTo?, hf]
      · have h' : ¬FieldName.text f = field := fun hne => h hne.symm
        simp [h, h']

/-- **One effect writes its fields**, each with the value that is supplied for it. -/
theorem Effect.get?_written (e : Effect) (i : Invocation) (field : FieldName) :
    (e.written i).get? field =
      if field ∈ e.fields.map FieldName.text then i.suppliedTo? e.domain field else none := by
  rw [Effect.written, OrderedMap.ofList, get?_insertAll_supplied]
  simp

/-- Writing an effect to a state changes the fields that it declares and for which there
is a value. -/
theorem Effect.value?_overlay_written (e : Effect) (i : Invocation) (s : Snapshot) (domain : String)
    (field : FieldName) :
    (if (e.written i).isEmpty then s
      else s.overlayDomain e.domain (e.written i)).value? domain field =
      if e.Declares domain field then (i.suppliedTo? domain field).or (s.value? domain field)
      else s.value? domain field := by
  have hoverlay : (if (e.written i).isEmpty then s
      else s.overlayDomain e.domain (e.written i)).value? domain field =
      if e.domain = domain then ((e.written i).get? field).or (s.value? domain field)
      else s.value? domain field := by
    by_cases hempty : (e.written i).isEmpty = true
    · have hnone : (e.written i).get? field = none := by
        rw [OrderedMap.get?_eq_none_iff, OrderedMap.keys, List.isEmpty_iff.1 hempty]
        simp
      simp [hempty, hnone]
    · rw [if_neg hempty, Snapshot.value?_overlayDomain]
      by_cases hdomain : e.domain = domain <;> simp [hdomain]
  rw [hoverlay, e.get?_written]
  by_cases hdomain : e.domain = domain
  · by_cases hfield : field ∈ e.fields.map FieldName.text
    · simp only [Effect.Declares, hdomain, hfield, if_true, and_self]
    · simp only [Effect.Declares, hfield, if_false, and_false, Option.none_or, ite_self]
  · simp only [Effect.Declares, hdomain, if_false, false_and]

/-- An overlaid state has the domains of both. -/
theorem Snapshot.mem_keys_overlay (s new : Snapshot) (domain : String) :
    domain ∈ (s.overlay new).keys ↔ domain ∈ new.keys ∨ domain ∈ s.keys := by
  obtain ⟨ds, hnodup⟩ := new
  simp only [overlay, OrderedMap.keys]
  clear hnodup
  induction ds generalizing s with
  | nil => simp
  | cons d ds ih =>
    rw [List.foldl_cons, ih, ← OrderedMap.keys, overlayDomain, OrderedMap.mem_keys_insert]
    simp [OrderedMap.keys, or_assoc, or_left_comm]

namespace Definition

/-- Effects write the fields that one of them declares. -/
theorem value?_foldl_written (i : Invocation) (es : List Effect) (s : Snapshot) (domain : String)
    (field : FieldName) :
    (es.foldl
        (fun s e => if (e.written i).isEmpty then s else s.overlayDomain e.domain (e.written i))
        s).value? domain field =
      if ∃ e ∈ es, e.Declares domain field then
        (i.suppliedTo? domain field).or (s.value? domain field)
      else s.value? domain field := by
  induction es generalizing s with
  | nil => simp
  | cons e es ih =>
    rw [List.foldl_cons, ih, e.value?_overlay_written]
    by_cases hlater : ∃ e' ∈ es, e'.Declares domain field
    · by_cases h : e.Declares domain field
      · cases i.suppliedTo? domain field <;> simp [hlater, h]
      · simp [hlater, h]
    · by_cases h : e.Declares domain field <;> simp [hlater, h]

/-- **A field is written by the effects that apply and declare it**, with the value that
is supplied for it. -/
theorem value?_writtenBy (d : Definition) (i : Invocation) (domain : String) (field : FieldName) :
    (d.writtenBy i).value? domain field =
      if ∃ e ∈ d.writes, e.applies i.flags.keys = true ∧ e.Declares domain field then
        i.suppliedTo? domain field
      else none := by
  rw [writtenBy, value?_foldl_written]
  simp [Snapshot.value?, and_assoc]

end Definition

/-! ### What is written to the actor -/

/-- Allocations are named by a value that can be shown. -/
theorem ExecutionContext.allocationsOf?_ne_none_iff {v : Value} :
    allocationsOf? v ≠ none ↔ v.isShowable = true := by
  cases v with
  | array items =>
    rw [allocationsOf?, Value.isShowable, Value.areShowable_iff, ne_eq, Option.map_eq_none_iff]
    exact mapM_ne_none_iff fun v => Value.shown?_ne_none_iff
  | _ =>
    rw [allocationsOf?, ne_eq, Option.map_eq_none_iff]
    · exact Value.shown?_ne_none_iff
    · simp

/-- An actor is written fields of which the privilege and the allocations can be shown. -/
theorem ExecutionContext.write?_ne_none_iff {context : ExecutionContext} {fields : Fields} :
    context.write? fields ≠ none ↔
      (∀ v, fields.get? "privilege" = some v → v.isShowable = true) ∧
        ∀ v, fields.get? "allocations" = some v → v.isShowable = true := by
  have hfield {α : Type} {read : Value → Option α} {v? : Option Value} (old : α)
      (hread : ∀ v, read v ≠ none ↔ v.isShowable = true) :
      v?.elim (some old) read ≠ none ↔ ∀ v, v? = some v → v.isShowable = true := by
    cases v? with
    | none => simp
    | some v => simp [← hread]
  rw [← hfield context.privilege fun v => Value.shown?_ne_none_iff,
    ← hfield context.allocations fun v => allocationsOf?_ne_none_iff, write?]
  cases (fields.get? "privilege").elim (some context.privilege) Value.shown? with
  | none => simp
  | some privilege =>
    cases (fields.get? "allocations").elim (some context.allocations) allocationsOf? <;> simp

/-- **An invocation can be shown** when all values that it supplies can. -/
def Invocation.Showable (i : Invocation) : Prop :=
  ∀ name v, i.values.get? name = some v → v.isShowable = true

/-- **What an invocation writes to the actor can be shown**: the privilege and the allocations,
where they are written. -/
def Definition.ActorShown (d : Definition) (i : Invocation) : Prop :=
  (∀ v, (d.writtenBy i).value? ExecutionContext.domain "privilege" = some v →
    v.isShowable = true) ∧
  ∀ v, (d.writtenBy i).value? ExecutionContext.domain "allocations" = some v →
    v.isShowable = true

namespace Definition

variable {d : Definition} {context : ExecutionContext} {i : Invocation} {s : Snapshot}
  {x : Execution}

/-- What an execution leads to, if it leads to anything. -/
theorem execution?_eq_some_iff :
    d.execution? context i s = some x ↔
      ((d.writtenBy i).get? ExecutionContext.domain).elim (some context) context.write? =
          some x.context ∧
        x.delta = (d.writtenBy i).erase ExecutionContext.domain ∧ x.state = s.overlay x.delta := by
  obtain ⟨context', state, delta⟩ := x
  simp only [execution?, Option.pure_def, Option.bind_eq_bind, Option.bind_eq_some_iff,
    Option.some.injEq, Execution.mk.injEq]
  constructor
  · rintro ⟨context', h, rfl, rfl, rfl⟩
    exact ⟨h, rfl, rfl⟩
  · rintro ⟨h, rfl, rfl⟩
    exact ⟨context', h, rfl, rfl, rfl⟩

/-- An invocation that can be shown writes nothing else. -/
theorem actorShown_of_showable (d : Definition) (h : i.Showable) : d.ActorShown i := by
  have hwritten (field : FieldName) (v : Value)
      (hv : (d.writtenBy i).value? ExecutionContext.domain field = some v) :
      v.isShowable = true := by
    rw [value?_writtenBy] at hv
    obtain ⟨-, hsupplied⟩ := Option.ite_none_right_eq_some.1 hv
    obtain ⟨name, hname⟩ := Invocation.exists_get?_of_suppliedTo? hsupplied
    exact h name v hname
  exact ⟨hwritten _, hwritten _⟩

/-- **An execution leads to something** unless what it writes to the actor cannot be shown. -/
theorem exists_execution_iff (d : Definition) (context : ExecutionContext) (i : Invocation)
    (s : Snapshot) : (∃ x, d.execution? context i s = some x) ↔ d.ActorShown i := by
  have hshown : d.ActorShown i ↔ ∀ fields,
      (d.writtenBy i).get? ExecutionContext.domain = some fields →
        context.write? fields ≠ none := by
    simp only [ExecutionContext.write?_ne_none_iff, ActorShown, Snapshot.value?]
    cases (d.writtenBy i).get? ExecutionContext.domain with
    | none => simp
    | some fields => simp
  rw [hshown, ← Option.isSome_iff_exists, Option.isSome_iff_ne_none, execution?]
  cases (d.writtenBy i).get? ExecutionContext.domain with
  | none => simp
  | some fields => cases hwrite : context.write? fields <;> simp [hwrite]

/-- **The new state has what was written and the rest as it was**, outside the domain that
stands for the actor. -/
theorem value?_execution (hx : d.execution? context i s = some x)
    (h : domain ≠ ExecutionContext.domain) (field : FieldName) :
    x.state.value? domain field =
      ((d.writtenBy i).value? domain field).or (s.value? domain field) := by
  obtain ⟨-, hdelta, hstate⟩ := execution?_eq_some_iff.1 hx
  have hget : ((d.writtenBy i).erase ExecutionContext.domain).get? domain =
      (d.writtenBy i).get? domain := by
    rw [OrderedMap.get?_erase, if_neg h]
  rw [hstate, hdelta, Snapshot.value?_overlay]
  simp only [Snapshot.value?, hget]

/-! ### Domains that are not declared -/

/-- Overlaying domains keeps every other domain. -/
theorem get?_foldl_overlayDomain {ds : List (String × Fields)} (h : domain ∉ ds.map Prod.fst)
    (s : Snapshot) :
    (ds.foldl (fun s d => s.overlayDomain d.1 d.2) s).get? domain = s.get? domain := by
  induction ds generalizing s with
  | nil => rfl
  | cons d ds ih =>
    rw [List.map_cons, List.mem_cons, not_or] at h
    have hd : ¬d.1 = domain := fun hd => h.1 hd.symm
    rw [List.foldl_cons, ih h.2, Snapshot.overlayDomain, OrderedMap.get?_insert, if_neg hd]

/-- Effects write to the domains that they declare. -/
theorem get?_foldl_written (i : Invocation) {es : List Effect} (h : ∀ e ∈ es, e.domain ≠ domain)
    (s : Snapshot) :
    (es.foldl
        (fun s e => if (e.written i).isEmpty then s else s.overlayDomain e.domain (e.written i))
        s).get? domain = s.get? domain := by
  induction es generalizing s with
  | nil => rfl
  | cons e es ih =>
    have hes : ∀ e' ∈ es, e'.domain ≠ domain := fun e' he' => h e' (List.mem_cons_of_mem _ he')
    rw [List.foldl_cons, ih hes]
    split
    · rfl
    · rw [Snapshot.overlayDomain, OrderedMap.get?_insert, if_neg (h e List.mem_cons_self)]

section Undeclared

variable (h : ∀ w ∈ d.writes, w.applies i.flags.keys = true → w.domain ≠ domain)

include h

/-- Nothing is written to a domain that no effect declares. -/
theorem get?_writtenBy_of_undeclared : (d.writtenBy i).get? domain = none := by
  rw [writtenBy, get?_foldl_written i]
  · rfl
  · intro e he
    rw [List.mem_filter] at he
    exact h e he.1 he.2

/-- **A domain that no effect declares is kept** with all its fields. -/
theorem get?_execution_of_undeclared (hx : d.execution? context i s = some x) :
    x.state.get? domain = s.get? domain := by
  obtain ⟨-, hdelta, hstate⟩ := execution?_eq_some_iff.1 hx
  have hnone : x.delta.get? domain = none := by
    rw [hdelta, OrderedMap.get?_erase, get?_writtenBy_of_undeclared h, ite_self]
  rw [hstate, Snapshot.overlay]
  refine get?_foldl_overlayDomain ?_ s
  rwa [← OrderedMap.keys, ← OrderedMap.get?_eq_none_iff]

end Undeclared

/-- **An execution that declares nothing of the actor** ends with the actor it began
with. -/
theorem context_execution_of_undeclared
    (h : ∀ w ∈ d.writes, w.applies i.flags.keys = true → w.domain ≠ ExecutionContext.domain)
    (hx : d.execution? context i s = some x) : x.context = context := by
  obtain ⟨hcontext, -, -⟩ := execution?_eq_some_iff.1 hx
  rw [get?_writtenBy_of_undeclared h] at hcontext
  exact (Option.some.inj hcontext).symm

end Definition

end ClusterTutor
