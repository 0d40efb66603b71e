import Mathlib.Data.List.Basic
import Mathlib.Order.Lattice.Nat
import Mathlib.Order.Bounds.Basic

/-!
# Edits of a text

One edit inserts, deletes or replaces one character somewhere in a text
(`ClusterTutor.Text.Edit`), and how far apart two texts are is the least number of edits, one
after another, that turn one into the other (`ClusterTutor.Text.leastEdits`). That this is a
distance needs no way to compute it: edits can be undone (`ClusterTutor.Text.Edits.symm`) and
follow each other (`ClusterTutor.Text.Edits.trans`), and one of them changes the length by one
at most.

## Reading both texts from the front

A way to compute it does need more. Edits come in any order and may touch a place again and
again, so the first characters of two texts say nothing about the first edit. An *alignment*
(`ClusterTutor.Text.Aligned`) reads both texts from the front and decides on every character
once. Two things are arranged here.

* **Alignments do no worse than edits** (`ClusterTutor.Text.Edits.exists_aligned`). One more
  edit changes an alignment only where it is made: the alignment is cut there, and the piece of
  the first text that has been read at this place is aligned anew with the character that is
  there now, or with nothing.
* **Both ends are alike** (`ClusterTutor.Text.leastEdits_reverse`). An alignment is taken apart
  at the front, which gives the recurrence `ClusterTutor.Text.leastEdits_cons_cons`; a table of
  the parts of two texts is filled at the end, where the same recurrence holds for the texts
  read backwards (`ClusterTutor.Text.leastEdits_concat_concat`).
-/

namespace ClusterTutor.Text

variable {m n : Nat} {u v w : List Char}

/-! ### Edits -/

/-- **One edit**: somewhere in a text a character comes in, goes out or is replaced. -/
inductive Edit : List Char → List Char → Prop
  /-- A character is inserted. -/
  | insert (front : List Char) (c : Char) (back : List Char) :
    Edit (front ++ back) (front ++ c :: back)
  /-- A character is deleted. -/
  | delete (front : List Char) (c : Char) (back : List Char) :
    Edit (front ++ c :: back) (front ++ back)
  /-- A character is replaced. -/
  | replace (front : List Char) (c d : Char) (back : List Char) :
    Edit (front ++ c :: back) (front ++ d :: back)

/-- **Edits one after another**: `Edits n u v` says that `n` of them turn `u` into `v`. -/
inductive Edits : Nat → List Char → List Char → Prop
  /-- Without an edit a text stays as it is. -/
  | refl (u : List Char) : Edits 0 u u
  /-- One more edit is made. -/
  | tail {n : Nat} {u v w : List Char} : Edits n u v → Edit v w → Edits (n + 1) u w

theorem Edit.symm (h : Edit u v) : Edit v u := by
  cases h with
  | insert front c back => exact .delete front c back
  | delete front c back => exact .insert front c back
  | replace front c d back => exact .replace front d c back

theorem Edit.cons (h : Edit u v) (c : Char) : Edit (c :: u) (c :: v) := by
  cases h with
  | insert front d back => exact .insert (c :: front) d back
  | delete front d back => exact .delete (c :: front) d back
  | replace front d e back => exact .replace (c :: front) d e back

theorem Edit.reverse (h : Edit u v) : Edit u.reverse v.reverse := by
  cases h with
  | insert front c back => simpa using Edit.insert back.reverse c front.reverse
  | delete front c back => simpa using Edit.delete back.reverse c front.reverse
  | replace front c d back => simpa using Edit.replace back.reverse c d front.reverse

/-- **An edit is made at one place**: there one character or none becomes one character or
none. -/
theorem Edit.exists_place (h : Edit u v) :
    ∃ front x y back, u = front ++ (x ++ back) ∧ v = front ++ (y ++ back) ∧
      x.length ≤ 1 ∧ y.length ≤ 1 := by
  cases h with
  | insert front c back => exact ⟨front, [], [c], back, rfl, rfl, by simp, by simp⟩
  | delete front c back => exact ⟨front, [c], [], back, rfl, rfl, by simp, by simp⟩
  | replace front c d back => exact ⟨front, [c], [d], back, rfl, rfl, by simp, by simp⟩

theorem Edits.trans (h : Edits m u v) (h' : Edits n v w) : Edits (m + n) u w := by
  induction h' with
  | refl => exact h
  | tail _ hedit ih => exact (ih h).tail hedit

theorem Edits.symm (h : Edits n u v) : Edits n v u := by
  induction h with
  | refl u => exact .refl u
  | @tail n u v w _ hedit ih =>
    rw [Nat.add_comm]
    exact ((Edits.refl w).tail hedit.symm).trans ih

theorem Edits.cons (h : Edits n u v) (c : Char) : Edits n (c :: u) (c :: v) := by
  induction h with
  | refl u => exact .refl (c :: u)
  | tail _ hedit ih => exact ih.tail (hedit.cons c)

theorem Edits.reverse (h : Edits n u v) : Edits n u.reverse v.reverse := by
  induction h with
  | refl u => exact .refl u.reverse
  | tail _ hedit ih => exact ih.tail hedit.reverse

/-- **A text grows by one character at most with every edit.** -/
theorem Edits.length_le (h : Edits n u v) : v.length ≤ u.length + n := by
  induction h with
  | refl => rfl
  | tail _ hedit ih =>
    obtain ⟨front, x, y, back, rfl, rfl, -, hy⟩ := hedit.exists_place
    simp only [List.length_append] at ih ⊢
    omega

/-! ### Alignments -/

/-- **Two texts read along each other**, from the front: `Aligned n u v` says that `u` becomes
`v` if at every place a character is kept or one of `n` edits is made. -/
inductive Aligned : Nat → List Char → List Char → Prop
  /-- Both texts are read. -/
  | nil : Aligned 0 [] []
  /-- Both go on with the same character, which is kept. -/
  | keep (c : Char) {n : Nat} {u v : List Char} : Aligned n u v → Aligned n (c :: u) (c :: v)
  /-- A character is replaced. -/
  | replace (c d : Char) {n : Nat} {u v : List Char} :
    Aligned n u v → Aligned (n + 1) (c :: u) (d :: v)
  /-- A character is deleted. -/
  | delete (c : Char) {n : Nat} {u v : List Char} : Aligned n u v → Aligned (n + 1) (c :: u) v
  /-- A character is inserted. -/
  | insert (d : Char) {n : Nat} {u v : List Char} : Aligned n u v → Aligned (n + 1) u (d :: v)

/-- An alignment is made of edits. -/
theorem Aligned.edits (h : Aligned n u v) : Edits n u v := by
  induction h with
  | nil => exact .refl []
  | keep c _ ih => exact ih.cons c
  | replace c d _ ih => exact (ih.cons c).tail (.replace [] c d _)
  | delete c _ ih => exact (ih.cons c).tail (.delete [] c _)
  | insert d _ ih => exact ih.tail (.insert [] d _)

theorem aligned_self (u : List Char) : Aligned 0 u u := by
  induction u with
  | nil => exact .nil
  | cons c u ih => exact ih.keep c

theorem aligned_nil_left (v : List Char) : Aligned v.length [] v := by
  induction v with
  | nil => exact .nil
  | cons d v ih => exact ih.insert d

theorem aligned_nil_right (u : List Char) : Aligned u.length u [] := by
  induction u with
  | nil => exact .nil
  | cons c u ih => exact ih.delete c

/-- **Any two texts can be aligned**, at the cost of the longer one at most. -/
theorem exists_aligned (u v : List Char) : ∃ n ≤ max u.length v.length, Aligned n u v := by
  induction u generalizing v with
  | nil => exact ⟨v.length, le_max_right _ _, aligned_nil_left v⟩
  | cons c u ih =>
    cases v with
    | nil => exact ⟨(c :: u).length, le_max_left _ _, aligned_nil_right (c :: u)⟩
    | cons d v =>
      obtain ⟨n, hn, h⟩ := ih v
      refine ⟨n + 1, ?_, h.replace c d⟩
      simp only [List.length_cons]
      omega

theorem Aligned.append {u' v' : List Char} (h : Aligned m u v) (h' : Aligned n u' v') :
    Aligned (m + n) (u ++ u') (v ++ v') := by
  induction h with
  | nil => simpa using h'
  | keep c _ ih => exact ih.keep c
  | replace c d _ ih =>
    rw [Nat.add_right_comm]
    exact ih.replace c d
  | delete c _ ih =>
    rw [Nat.add_right_comm]
    exact ih.delete c
  | insert d _ ih =>
    rw [Nat.add_right_comm]
    exact ih.insert d

/-- **An alignment can be cut** wherever the second text is. -/
theorem Aligned.exists_cut {front back : List Char} (h : Aligned n u (front ++ back)) :
    ∃ m k u₁ u₂, m + k = n ∧ u₁ ++ u₂ = u ∧ Aligned m u₁ front ∧ Aligned k u₂ back := by
  generalize hv : front ++ back = v at h
  induction h generalizing front with
  | nil =>
    obtain ⟨rfl, rfl⟩ := List.append_eq_nil_iff.1 hv
    exact ⟨0, 0, [], [], rfl, rfl, .nil, .nil⟩
  | @keep c n u v h ih =>
    rcases List.append_eq_cons_iff.1 hv with ⟨rfl, rfl⟩ | ⟨front, rfl, rfl⟩
    · exact ⟨0, n, [], c :: u, Nat.zero_add n, rfl, .nil, h.keep c⟩
    · obtain ⟨m, k, u₁, u₂, rfl, rfl, h₁, h₂⟩ := ih rfl
      exact ⟨m, k, c :: u₁, u₂, rfl, rfl, h₁.keep c, h₂⟩
  | @replace c d n u v h ih =>
    rcases List.append_eq_cons_iff.1 hv with ⟨rfl, rfl⟩ | ⟨front, rfl, rfl⟩
    · exact ⟨0, n + 1, [], c :: u, Nat.zero_add _, rfl, .nil, h.replace c d⟩
    · obtain ⟨m, k, u₁, u₂, rfl, rfl, h₁, h₂⟩ := ih rfl
      exact ⟨m + 1, k, c :: u₁, u₂, Nat.add_right_comm m 1 k, rfl, h₁.replace c d, h₂⟩
  | @delete c n u v _ ih =>
    -- the second text has not been read on, so the cut is the one of the rest
    obtain ⟨m, k, u₁, u₂, rfl, rfl, h₁, h₂⟩ := ih hv
    exact ⟨m + 1, k, c :: u₁, u₂, Nat.add_right_comm m 1 k, rfl, h₁.delete c, h₂⟩
  | @insert d n u v h ih =>
    rcases List.append_eq_cons_iff.1 hv with ⟨rfl, rfl⟩ | ⟨front, rfl, rfl⟩
    · exact ⟨0, n + 1, [], u, Nat.zero_add _, rfl, .nil, h.insert d⟩
    · obtain ⟨m, k, u₁, u₂, rfl, rfl, h₁, h₂⟩ := ih rfl
      exact ⟨m + 1, k, u₁, u₂, Nat.add_right_comm m 1 k, rfl, h₁.insert d, h₂⟩

/-- **One more edit costs an alignment one at most.** -/
theorem Aligned.exists_edit (h : Aligned n u v) (hedit : Edit v w) :
    ∃ m ≤ n + 1, Aligned m u w := by
  obtain ⟨front, x, y, back, rfl, rfl, hx, hy⟩ := hedit.exists_place
  obtain ⟨n₁, n', u₁, u', rfl, rfl, hfront, h'⟩ := h.exists_cut
  obtain ⟨n₂, n₃, u₂, u₃, rfl, rfl, hplace, hback⟩ := h'.exists_cut
  obtain ⟨m, hm, hnew⟩ := exists_aligned u₂ y
  have hread : u₂.length ≤ x.length + n₂ := hplace.edits.symm.length_le
  exact ⟨n₁ + (m + n₃), by omega, hfront.append (hnew.append hback)⟩

/-- **Alignments do no worse than edits.** -/
theorem Edits.exists_aligned (h : Edits n u v) : ∃ m ≤ n, Aligned m u v := by
  induction h with
  | refl u => exact ⟨0, le_rfl, aligned_self u⟩
  | tail _ hedit ih =>
    obtain ⟨m, hm, halign⟩ := ih
    obtain ⟨k, hk, halign'⟩ := halign.exists_edit hedit
    exact ⟨k, by omega, halign'⟩

/-! ### The least number of edits -/

/-- **The least number of edits** that turn `u` into `v`. -/
noncomputable def leastEdits (u v : List Char) : Nat :=
  sInf {n | Edits n u v}

theorem edits_leastEdits (u v : List Char) : Edits (leastEdits u v) u v := by
  obtain ⟨n, -, h⟩ := exists_aligned u v
  have hsome : {n | Edits n u v}.Nonempty := ⟨n, h.edits⟩
  exact Nat.sInf_mem hsome

theorem leastEdits_le (h : Edits n u v) : leastEdits u v ≤ n :=
  Nat.sInf_le h

theorem isLeast_leastEdits (u v : List Char) : IsLeast {n | Edits n u v} (leastEdits u v) :=
  ⟨edits_leastEdits u v, fun _ h => leastEdits_le h⟩

theorem leastEdits_eq_zero_iff : leastEdits u v = 0 ↔ u = v := by
  constructor
  · intro hzero
    have h := edits_leastEdits u v
    rw [hzero] at h
    cases h
    rfl
  · rintro rfl
    exact Nat.le_zero.1 (leastEdits_le (.refl u))

theorem leastEdits_comm (u v : List Char) : leastEdits u v = leastEdits v u :=
  le_antisymm (leastEdits_le (edits_leastEdits v u).symm)
    (leastEdits_le (edits_leastEdits u v).symm)

theorem leastEdits_triangle (u v w : List Char) :
    leastEdits u w ≤ leastEdits u v + leastEdits v w :=
  leastEdits_le ((edits_leastEdits u v).trans (edits_leastEdits v w))

theorem leastEdits_reverse (u v : List Char) :
    leastEdits u.reverse v.reverse = leastEdits u v := by
  refine le_antisymm (leastEdits_le (edits_leastEdits u v).reverse) (leastEdits_le ?_)
  simpa using (edits_leastEdits u.reverse v.reverse).reverse

theorem length_le_leastEdits (u v : List Char) : v.length ≤ u.length + leastEdits u v :=
  (edits_leastEdits u v).length_le

theorem leastEdits_le_max (u v : List Char) : leastEdits u v ≤ max u.length v.length := by
  obtain ⟨n, hn, h⟩ := exists_aligned u v
  exact (leastEdits_le h.edits).trans hn

theorem leastEdits_nil_left (v : List Char) : leastEdits [] v = v.length := by
  have hlow := length_le_leastEdits [] v
  have hhigh := leastEdits_le (aligned_nil_left v).edits
  simp only [List.length_nil] at hlow
  omega

/-- **The recurrence**: the first characters go, or the two are made the same. -/
theorem leastEdits_cons_cons (c d : Char) (u v : List Char) :
    leastEdits (c :: u) (d :: v) =
      min (min (leastEdits u (d :: v) + 1) (leastEdits (c :: u) v + 1))
        (leastEdits u v + if c = d then 0 else 1) := by
  refine le_antisymm (le_min (le_min ?_ ?_) ?_) ?_
  · refine leastEdits_le ?_
    exact ((edits_leastEdits u (d :: v)).cons c).tail (.delete [] c (d :: v))
  · exact leastEdits_le ((edits_leastEdits (c :: u) v).tail (.insert [] d v))
  · have hkept := (edits_leastEdits u v).cons c
    split_ifs with hcd
    · subst hcd
      exact leastEdits_le hkept
    · exact leastEdits_le (hkept.tail (.replace [] c d v))
  · -- an alignment, other than edits, says what becomes of the two first characters
    obtain ⟨m, hm, halign⟩ := (edits_leastEdits (c :: u) (d :: v)).exists_aligned
    refine le_trans ?_ hm
    cases halign with
    | keep _ h =>
      have hle := leastEdits_le h.edits
      rw [if_pos rfl]
      omega
    | replace _ _ h =>
      have hle := leastEdits_le h.edits
      have hcost : (if c = d then 0 else 1) ≤ 1 := by split_ifs <;> omega
      omega
    | delete _ h =>
      have hle := leastEdits_le h.edits
      omega
    | insert _ h =>
      have hle := leastEdits_le h.edits
      omega

/-- **The recurrence at the end** of both texts. -/
theorem leastEdits_concat_concat (c d : Char) (u v : List Char) :
    leastEdits (u ++ [c]) (v ++ [d]) =
      min (min (leastEdits u (v ++ [d]) + 1) (leastEdits (u ++ [c]) v + 1))
        (leastEdits u v + if c = d then 0 else 1) := by
  have hbackwards := leastEdits_cons_cons c d u.reverse v.reverse
  simpa only [← List.reverse_concat, leastEdits_reverse] using hbackwards

end ClusterTutor.Text
