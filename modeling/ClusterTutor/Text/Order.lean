/-!
# The order of texts

Names are listed in the order of their code points.
-/

namespace ClusterTutor.Text

/-- Items in the order of the texts that a key gives them; items with equal keys keep
their order. -/
def sortedBy {α : Type} (key : α → String) (xs : List α) : List α :=
  xs.mergeSort fun x y => decide (key x ≤ key y)

/-- Texts in order. -/
def sorted (xs : List String) : List String :=
  sortedBy id xs

/-- Whether all texts of a list are different. -/
def allDistinct : List String → Bool
  | [] => true
  | s :: ss => !ss.contains s && allDistinct ss

section SortedBy

variable {α : Type} {key : α → String} {xs ys : List α}

theorem perm_sortedBy (key : α → String) (xs : List α) : (sortedBy key xs).Perm xs :=
  List.mergeSort_perm _ _

theorem pairwise_sortedBy (key : α → String) (xs : List α) :
    (sortedBy key xs).Pairwise fun x y => key x ≤ key y := by
  have hsorted : (xs.mergeSort fun x y => decide (key x ≤ key y)).Pairwise
      fun x y => decide (key x ≤ key y) = true :=
    List.pairwise_mergeSort
      (fun x y z hxy hyz => by
        simpa using String.le_trans (by simpa using hxy) (by simpa using hyz))
      (fun x y => by simpa using String.le_total (key x) (key y)) xs
  exact hsorted.imp fun hle => of_decide_eq_true hle

/-- Items with different keys in order have increasing keys. -/
theorem increasing_sortedBy (h : (xs.map key).Nodup) :
    (sortedBy key xs).Pairwise fun x y => key x < key y := by
  have hnodup : ((sortedBy key xs).map key).Nodup :=
    ((perm_sortedBy key xs).map key).nodup_iff.2 h
  refine (pairwise_sortedBy key xs).imp₂ (fun x y hle hne => ?_) (List.pairwise_map.1 hnodup)
  exact String.not_le.1 fun hyx => hne (String.le_antisymm hle hyx)

/-- A list in which the keys increase is what its items are sorted to. -/
theorem sortedBy_eq_of_perm (hperm : xs.Perm ys) (hys : ys.Pairwise fun x y => key x < key y) :
    sortedBy key xs = ys := by
  have hnodup : (xs.map key).Nodup := by
    rw [(hperm.map key).nodup_iff]
    exact List.pairwise_map.2 (hys.imp fun hlt => String.ne_of_lt hlt)
  refine List.Perm.eq_of_pairwise (fun x y _ _ hxy hyx => ?_) (increasing_sortedBy hnodup) hys
    ((perm_sortedBy key xs).trans hperm)
  exact absurd hyx (String.lt_asymm hxy)

end SortedBy

theorem perm_sorted (xs : List String) : (sorted xs).Perm xs :=
  perm_sortedBy id xs

@[simp] theorem mem_sorted {s : String} {xs : List String} : s ∈ sorted xs ↔ s ∈ xs :=
  (perm_sorted xs).mem_iff

@[simp] theorem length_sorted (xs : List String) : (sorted xs).length = xs.length :=
  (perm_sorted xs).length_eq

/-- Different texts in order increase. -/
theorem increasing_sorted {xs : List String} (h : xs.Nodup) : (sorted xs).Pairwise (· < ·) := by
  have hkeys : (xs.map id).Nodup := by simpa using h
  exact increasing_sortedBy hkeys

end ClusterTutor.Text
