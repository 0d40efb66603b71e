import ClusterTutor.Simulation.Invocation
import Mathlib.Data.List.Perm.Subperm

/-!
# Being the same

Values are compared as a caller would compare them: numbers as numbers, objects without
regard to the order of their fields. This module holds what the engine needs of that
comparison. Every value is the same as itself, and so is every invocation
(`ClusterTutor.Invocation.same_self`), so that what a check has approved can be executed
at once. Invocations that say the same give the same flags
(`ClusterTutor.Invocation.mem_flags_of_same`), and the flags are all that a decision about
an invocation looks at.
-/

namespace ClusterTutor

namespace Value

mutual

/-- **Every value is the same as itself**, undefined numbers included. -/
theorem same_self : ∀ v : Value, v.same v = true
  | .null => rfl
  | .bool b => by simp [same, sameNumber, magnitude?]
  | .int n => by simp [same, sameNumber, magnitude?]
  | .float x => by simp [same, sameNumber, magnitude?]
  | .string s => by simp [same]
  | .array items => by simp [same, sameItems_self items]
  | .object fields => by simp [same, sameFields_of_subset fields fields fun _ hf => hf]

theorem sameItems_self : ∀ vs : List Value, sameItems vs vs = true
  | [] => rfl
  | v :: vs => by simp [sameItems, same_self v, sameItems_self vs]

theorem sameFields_of_subset : ∀ fs gs : List (String × Value), fs ⊆ gs → sameFields fs gs = true
  | [], _, _ => rfl
  | (name, v) :: fs, gs, h => by
    have hv : (name, v) ∈ gs := h List.mem_cons_self
    have hfs : fs ⊆ gs := fun _ hf => h (List.mem_cons_of_mem _ hf)
    simp only [sameFields, sameFields_of_subset fs gs hfs, Bool.and_true, List.any_eq_true]
    exact ⟨(name, v), hv, by simp [same_self v]⟩

end

end Value

/-! ### Maps of values -/

theorem sameEntries_self (m : OrderedMap String Value) : sameEntries m m = true := by
  simp only [sameEntries, beq_self_eq_true, Bool.true_and, List.all_eq_true]
  rintro ⟨k, v⟩ he
  have hget : m.get? k = some v := (m.mem_toList_iff k v).1 he
  simp [hget, Value.same_self v]

/-- Maps with the same entries bind the same keys: the keys of the first are among those
of the second, and there are as many of them. -/
theorem mem_keys_of_sameEntries {m n : OrderedMap String Value} (h : sameEntries m n = true)
    (k : String) : k ∈ m.keys ↔ k ∈ n.keys := by
  simp only [sameEntries, Bool.and_eq_true, beq_iff_eq, List.all_eq_true] at h
  obtain ⟨hsize, hall⟩ := h
  have hsub : m.keys ⊆ n.keys := by
    intro k hk
    obtain ⟨e, he, rfl⟩ := List.mem_map.1 hk
    obtain ⟨w, hw, -⟩ := (Option.any_eq_true _ _).1 (hall e he)
    refine (n.contains_iff e.1).1 ?_
    simp [OrderedMap.contains, hw]
  have hlen : n.keys.length ≤ m.keys.length := by
    simp only [OrderedMap.size] at hsize
    simp [OrderedMap.keys, hsize]
  have hperm : m.keys.Perm n.keys :=
    (List.subperm_of_subset m.nodup_keys hsub).perm_of_length_le hlen
  exact hperm.mem_iff

namespace Invocation

/-- **Every invocation says the same as itself.** -/
theorem same_self (i : Invocation) : i.same i = true := by
  simp [same, sameEntries_self]

/-- Invocations that say the same have the same flags. -/
theorem mem_flags_of_same {i j : Invocation} (h : i.same j = true) (f : String) :
    f ∈ i.flags.keys ↔ f ∈ j.flags.keys := by
  simp only [same, Bool.and_eq_true] at h
  exact mem_keys_of_sameEntries h.1.1 f

end Invocation

end ClusterTutor
