import ClusterTutor.Text.NameSet
import Mathlib.Data.List.Basic
import Mathlib.Data.List.Induction

/-!
# Growing sets of names

How the number of members follows what is put into a set of names. A name that is no member yet
makes the set larger by one (`ClusterTutor.NameSet.size_insert`), so a list of different names
makes a set of as many members (`ClusterTutor.NameSet.size_ofList`).
-/

namespace ClusterTutor

namespace NameSet

theorem length_place {x : String} {xs : List String} (h : x ∉ xs) :
    (place x xs).length = xs.length + 1 := by
  induction xs with
  | nil => rfl
  | cons y ys ih =>
    have hne : x ≠ y := fun heq => h (heq ▸ List.mem_cons_self)
    have hys : x ∉ ys := fun hmem => h (List.mem_cons_of_mem y hmem)
    rw [place, if_neg hne]
    split
    · rfl
    · rw [List.length_cons, List.length_cons, ih hys]

theorem size_insert {s : NameSet} {x : String} (h : x ∉ s) : (s.insert x).size = s.size + 1 :=
  length_place h

theorem insert_ne {s : NameSet} {x : String} (h : x ∉ s) : s.insert x ≠ s :=
  fun heq => h (heq ▸ (mem_insert s x x).2 (.inl rfl))

theorem ofList_concat (xs : List String) (x : String) : ofList (xs ++ [x]) = (ofList xs).insert x :=
  List.foldl_append

theorem size_ofList {xs : List String} (h : xs.Nodup) : (ofList xs).size = xs.length := by
  induction xs using List.reverseRecOn with
  | nil => rfl
  | append_singleton xs x ih =>
    obtain ⟨hxs, -, hx⟩ := List.nodup_append.1 h
    have hnew : x ∉ ofList xs :=
      fun hmem => hx x ((mem_ofList xs x).1 hmem) x (List.mem_singleton.2 rfl) rfl
    rw [ofList_concat, size_insert hnew, ih hxs, List.length_append, List.length_singleton]

end NameSet

end ClusterTutor
