import ClusterTutor.Proofs.CommandLine.Renamed
import ClusterTutor.Proofs.Engine.Footprint
import ClusterTutor.Proofs.Session.WriteValues

/-!
# Names that the effects of a command do not tell apart

The check of a flag and the reading of a line know an option by all its names. The effects do not:
they list names, and what is not listed is not seen. So whether two names of one option come to the
same is decided by the lists.

| what is decided | when two names come to the same |
|---|---|
| which reads apply | every list has both names, or neither |
| whether root is needed | both need it, or neither |
| what is written | no list has either name |

The third row asks for more than the first. A list that has both names writes the value of that one
that comes first *in the list*, while of two values typed under one name the later one counts; so an
option that is typed twice would tell the names apart.

Names with these three properties are *exchangeable* (`ClusterTutor.Definition.Exchangeable`), and
the engine then makes the same of a line under either name
(`ClusterTutor.Definition.Exchangeable.attempt_eq`).
-/

namespace ClusterTutor

variable {a b command : String} {flags flags' : List String} {d : Definition} {e : Effect}
  {p p' : ParsedLine}

/-! ### Lists of flags -/

/-- **Lists of flags with one name exchanged**: the one has a name and the other has another, and
nothing else is missing from either. -/
structure Swaps (a b : String) (flags flags' : List String) : Prop where
  /-- The one name is in the one list. -/
  left : a ∈ flags
  /-- The other name is in the other list. -/
  right : b ∈ flags'
  /-- Nothing else is missing from the second list. -/
  kept : ∀ k ∈ flags, k ≠ a → k ∈ flags'
  /-- Nothing else is missing from the first list. -/
  found : ∀ k ∈ flags', k ≠ b → k ∈ flags

namespace Swaps

theorem symm (h : Swaps a b flags flags') : Swaps b a flags' flags :=
  ⟨h.right, h.left, h.found, h.kept⟩

theorem of_renames {m m' : OrderedMap String FlagValue} (h : OrderedMap.Renames a b m m') :
    Swaps a b m.keys m'.keys :=
  ⟨h.mem_keys_left, h.mem_keys_right, fun _ => h.mem_keys_of_ne, fun _ => h.symm.mem_keys_of_ne⟩

/-- Only which flags are in a list counts. -/
theorem of_mem_iff {fs fs' : List String} (h : Swaps a b flags flags')
    (hmem : ∀ k, k ∈ fs ↔ k ∈ flags) (hmem' : ∀ k, k ∈ fs' ↔ k ∈ flags') : Swaps a b fs fs' where
  left := (hmem a).2 h.left
  right := (hmem' b).2 h.right
  kept k hk hne := (hmem' k).2 (h.kept k ((hmem k).1 hk) hne)
  found k hk hne := (hmem k).2 (h.found k ((hmem' k).1 hk) hne)

/-- Names that are their own tokens are exchanged among the tokens. -/
theorem map_tokenOf (h : Swaps a b flags flags') (ha : tokenOf a = a) (hb : tokenOf b = b) :
    Swaps a b (flags.map tokenOf) (flags'.map tokenOf) where
  left := List.mem_map.2 ⟨a, h.left, ha⟩
  right := List.mem_map.2 ⟨b, h.right, hb⟩
  kept := by
    rintro _ ht hne
    obtain ⟨k, hk, rfl⟩ := List.mem_map.1 ht
    exact List.mem_map_of_mem (h.kept k hk fun hka => hne (hka ▸ ha))
  found := by
    rintro _ ht hne
    obtain ⟨k, hk, rfl⟩ := List.mem_map.1 ht
    exact List.mem_map_of_mem (h.found k hk fun hkb => hne (hkb ▸ hb))

/-- What is true of the token of some flag stays so, if it is true of the second name when it is of
the first. -/
theorem exists_tokenOf (h : Swaps a b flags flags') (ha : tokenOf a = a) (hb : tokenOf b = b)
    (q : String → Prop) (hq : q a → q b) (hex : ∃ f ∈ flags, q (tokenOf f)) :
    ∃ f ∈ flags', q (tokenOf f) := by
  obtain ⟨f, hf, hqf⟩ := hex
  by_cases hfa : f = a
  · rw [hfa, ha] at hqf
    exact ⟨b, h.right, hb.symm ▸ hq hqf⟩
  · exact ⟨f, h.kept f hf hfa, hqf⟩

/-- **An effect that lists both names or neither** applies to both lists of flags or to neither. -/
theorem applies_eq (h : Swaps a b flags flags') (ha : tokenOf a = a) (hb : tokenOf b = b)
    (hlisted : ∀ needed, e.flags = some needed → (a ∈ needed ↔ b ∈ needed)) :
    e.applies flags = e.applies flags' := by
  rw [Bool.eq_iff_iff, Effect.applies_iff, Effect.applies_iff]
  constructor
  · intro happ needed hneeded
    exact h.exists_tokenOf ha hb (· ∈ needed) (hlisted needed hneeded).1 (happ needed hneeded)
  · intro happ needed hneeded
    exact h.symm.exists_tokenOf hb ha (· ∈ needed) (hlisted needed hneeded).2
      (happ needed hneeded)

/-- **Names that both need root or neither** leave the need for root as it is. -/
theorem needsRoot_eq (h : Swaps a b flags flags') (ha : tokenOf a = a) (hb : tokenOf b = b)
    (hroot : d.flagNeedsRoot a = d.flagNeedsRoot b) : d.needsRoot flags = d.needsRoot flags' := by
  rw [Bool.eq_iff_iff, Definition.needsRoot_iff, Definition.needsRoot_iff]
  constructor
  · exact Or.imp_left (h.exists_tokenOf ha hb (d.flagNeedsRoot · = true) fun ha => hroot ▸ ha)
  · exact Or.imp_left
      (h.symm.exists_tokenOf hb ha (d.flagNeedsRoot · = true) fun hb => hroot ▸ hb)

end Swaps

namespace Definition

/-! ### What the engine looks at -/

/-- **Flags that a command treats alike**: the same effects apply to them, and both need root or
neither does. -/
structure TreatsAlike (d : Definition) (flags flags' : List String) : Prop where
  /-- The same reads apply. -/
  reads : ∀ e ∈ d.reads, e.applies flags = e.applies flags'
  /-- The same writes apply. -/
  writes : ∀ e ∈ d.writes, e.applies flags = e.applies flags'
  /-- Both need root or neither does. -/
  root : d.needsRoot flags = d.needsRoot flags'

/-- **The engine makes the same of two invocations** with the same values, if the command treats
their flags alike. -/
theorem TreatsAlike.attempt_eq {i i' : Invocation} (h : d.TreatsAlike i.flags.keys i'.flags.keys)
    (hvalues : i.values = i'.values) {engine : Engine}
    (hd : engine.catalogue.get? command = some d) (context : ExecutionContext) :
    engine.attempt context command i = engine.attempt context command i' := by
  have hreads : d.reads.filter (·.applies i.flags.keys) =
      d.reads.filter (·.applies i'.flags.keys) := List.filter_congr h.reads
  have hwrites : d.writes.filter (·.applies i.flags.keys) =
      d.writes.filter (·.applies i'.flags.keys) := List.filter_congr h.writes
  have heffect : ∀ e : Effect, e.written i = e.written i' := by
    intro e
    simp only [Effect.written, Invocation.supplied?, hvalues]
  have hdenial : d.denial? context i engine.state = d.denial? context i' engine.state := by
    simp only [denial?, h.root, missingDomain?_eq, footprint_eq, domainsTouched, hreads]
  have hwritten : d.writtenBy i = d.writtenBy i' := by
    simp only [writtenBy, hwrites, heffect]
  rw [Engine.attempt_of_get? hd, Engine.attempt_of_get? hd, hdenial]
  simp only [Engine.perform, execution?, hwritten]

/-! ### Names that come to the same -/

/-- **Two names are exchangeable** for the effects of a command: no read tells them apart, both need
root or neither does, and, unless they are the same name, no write lists one of them. -/
structure Exchangeable (d : Definition) (a b : String) : Prop where
  /-- A read lists both names or neither. -/
  reads : ∀ e ∈ d.reads, ∀ needed, e.flags = some needed → (a ∈ needed ↔ b ∈ needed)
  /-- A write lists neither of two different names. -/
  writes : a ≠ b → ∀ e ∈ d.writes, ∀ needed, e.flags = some needed → a ∉ needed ∧ b ∉ needed
  /-- Both names need root or neither does. -/
  root : d.flagNeedsRoot a = d.flagNeedsRoot b

namespace Exchangeable

/-- A name is exchangeable with itself. -/
theorem refl (d : Definition) (a : String) : d.Exchangeable a a :=
  ⟨fun _ _ _ _ => Iff.rfl, fun hne => absurd rfl hne, rfl⟩

theorem iff_of_ne (hne : a ≠ b) : d.Exchangeable a b ↔
    (∀ e ∈ d.reads, ∀ needed ∈ e.flags, (a ∈ needed ↔ b ∈ needed)) ∧
      (∀ e ∈ d.writes, ∀ needed ∈ e.flags, a ∉ needed ∧ b ∉ needed) ∧
      d.flagNeedsRoot a = d.flagNeedsRoot b :=
  ⟨fun ⟨hreads, hwrites, hroot⟩ => ⟨hreads, hwrites hne, hroot⟩,
    fun ⟨hreads, hwrites, hroot⟩ => ⟨hreads, fun _ => hwrites, hroot⟩⟩

instance decidable (d : Definition) (a b : String) : Decidable (d.Exchangeable a b) :=
  if heq : a = b then .isTrue (heq ▸ refl d a) else decidable_of_iff' _ (iff_of_ne heq)

/-- A command treats exchangeable names alike. -/
theorem treatsAlike (h : d.Exchangeable a b) (ha : tokenOf a = a) (hb : tokenOf b = b)
    (hswaps : Swaps a b flags flags') : d.TreatsAlike flags flags' where
  reads e he := hswaps.applies_eq ha hb (h.reads e he)
  writes e he := by
    refine hswaps.applies_eq ha hb fun needed hneeded => ?_
    -- Of two different names a write lists neither, which is more than is needed here.
    by_cases hab : a = b
    · rw [hab]
    · obtain ⟨hna, hnb⟩ := h.writes hab e he needed hneeded
      exact iff_of_false hna hnb
  root := hswaps.needsRoot_eq ha hb h.root

/-- Under exchangeable names every write carries the same value. -/
theorem effectValue_eq (h : d.Exchangeable a b) {m m' : OrderedMap String FlagValue}
    (hrenames : OrderedMap.Renames a b m m') (he : e ∈ d.writes) (words : List String) :
    Invocation.effectValue (e.flags.getD []) m words =
      Invocation.effectValue (e.flags.getD []) m' words := by
  have hget : ∀ k ∈ e.flags.getD [], m.get? k = m'.get? k := by
    intro k hk
    cases hneeded : e.flags with
    | none => simp [hneeded] at hk
    | some needed =>
      rw [hneeded, Option.getD_some] at hk
      by_cases hab : a = b
      · subst hab
        rw [hrenames.eq]
      · obtain ⟨hna, hnb⟩ := h.writes hab e he needed hneeded
        exact hrenames.get?_eq (fun hka => hna (hka ▸ hk)) fun hkb => hnb (hkb ▸ hk)
  have hfirst : (e.flags.getD []).findSome? m.get? = (e.flags.getD []).findSome? m'.get? := by
    rw [← List.head?_filterMap, List.filterMap_congr hget, List.head?_filterMap]
  rw [Invocation.effectValue, Invocation.effectValue, hfirst]

theorem effectValues_eq (h : d.Exchangeable a b) (ha : tokenOf a = a) (hb : tokenOf b = b)
    {m m' : OrderedMap String FlagValue} (hrenames : OrderedMap.Renames a b m m')
    (words : List String) {es : List Effect} (hes : es ⊆ d.writes)
    (values : OrderedMap String Value) :
    Invocation.effectValues m words es values = Invocation.effectValues m' words es values := by
  have halike := h.treatsAlike ha hb (.of_renames hrenames)
  induction es generalizing values with
  | nil => rfl
  | cons e es ih =>
    obtain ⟨he, hrest⟩ := List.cons_subset.1 hes
    rw [Invocation.effectValues, Invocation.effectValues, halike.writes e he,
      h.effectValue_eq hrenames he]
    simp only [ih hrest]

/-- **The engine makes the same of a line under either name.** -/
theorem attempt_eq (h : d.Exchangeable a b) (ha : tokenOf a = a) (hb : tokenOf b = b)
    (hrenames : ParsedLine.Renames a b p p') {engine : Engine}
    (hd : engine.catalogue.get? command = some d) (context : ExecutionContext) :
    (Invocation.ofLine d p).map (engine.attempt context command) =
      (Invocation.ofLine d p').map (engine.attempt context command) := by
  have hsplit : Invocation.splitWords d p = Invocation.splitWords d p' := by
    simp only [Invocation.splitWords, ParsedLine.words, hrenames.subcommands, hrenames.positionals]
  have hvalues := h.effectValues_eq ha hb hrenames.flags (Invocation.splitWords d p').2
    (List.Subset.refl d.writes) .empty
  have hline : ∀ q : ParsedLine, Invocation.ofLine d q =
      (Invocation.effectValues q.flags (Invocation.splitWords d q).2 d.writes .empty).map
        (.make (q.flags.toList.map fun f => (f.1, Invocation.flagValue f.2))
          (Invocation.splitWords d q).1) := by
    intro q
    rcases hwords : Invocation.splitWords d q with ⟨subcommands, words⟩
    simp only [Invocation.ofLine, hwords]
    cases Invocation.effectValues q.flags words d.writes .empty <;> rfl
  have hkeys : ∀ (q : ParsedLine) subcommands values t,
      t ∈ (Invocation.make (q.flags.toList.map fun f => (f.1, Invocation.flagValue f.2))
        subcommands values).flags.keys ↔ t ∈ q.flags.keys.map tokenOf := by
    intro q subcommands values t
    rw [Invocation.make, OrderedMap.ofList, OrderedMap.mem_keys_insertAll]
    simp [OrderedMap.keys, OrderedMap.empty]
  -- The invocations differ in their flags alone, and the engine asks of these only what the command
  -- treats alike.
  rw [hline p, hline p', hsplit, hvalues]
  cases Invocation.effectValues p'.flags (Invocation.splitWords d p').2 d.writes .empty with
  | error fault => rfl
  | ok values =>
    have hswaps := (Swaps.of_renames hrenames.flags).map_tokenOf ha hb
    have halike := h.treatsAlike ha hb (hswaps.of_mem_iff
      (hkeys p (Invocation.splitWords d p').1 values)
      (hkeys p' (Invocation.splitWords d p').1 values))
    exact congrArg Except.ok (halike.attempt_eq rfl hd context)

end Exchangeable

end Definition

end ClusterTutor
