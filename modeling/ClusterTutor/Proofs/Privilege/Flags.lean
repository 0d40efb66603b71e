import ClusterTutor.Privilege

/-!
# What flags decide

Whether an effect applies, and whether an invocation needs root, are decided from the
flags alone. This module says on which flags each decision looks: both take the *token*
of a flag, but a different number of times. An effect is compared with the token of a
flag (`ClusterTutor.Effect.applies_iff`), the need for root with the token of that token
(`ClusterTutor.Definition.needsRoot_iff`). Neither looks at the order of the flags or at
how often one is given, so two lists with the same flags are decided alike.
-/

namespace ClusterTutor

variable {flags flags' : List String}

namespace Effect

/-- An effect applies when it has no list of flags, or when the token of a given flag is
on its list. -/
theorem applies_iff (e : Effect) :
    e.applies flags = true ↔ ∀ needed, e.flags = some needed → ∃ f ∈ flags, tokenOf f ∈ needed := by
  unfold applies
  cases e.flags with
  | none => simp
  | some needed =>
    simp only [List.any_eq_true, List.contains_iff_mem, List.mem_map, Option.some.injEq,
      forall_eq']
    constructor
    · rintro ⟨t, ht, f, hf, rfl⟩
      exact ⟨f, hf, ht⟩
    · rintro ⟨f, hf, ht⟩
      exact ⟨tokenOf f, ht, f, hf, rfl⟩

theorem applies_congr (e : Effect) (h : ∀ f, f ∈ flags ↔ f ∈ flags') :
    e.applies flags = e.applies flags' := by
  rw [Bool.eq_iff_iff, applies_iff, applies_iff]
  simp only [h]

end Effect

namespace Definition

variable (d : Definition)

/-- A flag needs root when its token is on the list of a root-only write, when some
root-only write has no list, or when the notes speak of root and the token is known to
write. -/
theorem flagNeedsRoot_iff (f : String) :
    d.flagNeedsRoot f = true ↔
      (∃ e ∈ d.writes, e.needsRoot = true ∧ ∀ needed, e.flags = some needed → tokenOf f ∈ needed) ∨
        d.writeNeedsRoot = true ∧ tokenOf f ∈ knownWriteFlags := by
  simp [flagNeedsRoot, Option.all_eq_true]

theorem needsRoot_iff :
    d.needsRoot flags = true ↔
      (∃ f ∈ flags, d.flagNeedsRoot (tokenOf f) = true) ∨
        ∃ e ∈ d.writes, e.needsRoot = true ∧ e.flags = none := by
  simp [needsRoot]

theorem needsRoot_congr (h : ∀ f, f ∈ flags ↔ f ∈ flags') :
    d.needsRoot flags = d.needsRoot flags' := by
  rw [Bool.eq_iff_iff, needsRoot_iff, needsRoot_iff]
  simp only [h]

end Definition

end ClusterTutor
