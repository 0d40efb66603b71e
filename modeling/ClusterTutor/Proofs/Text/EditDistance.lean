import ClusterTutor.Proofs.Text.Edits
import ClusterTutor.Text.EditDistance

/-!
# The edit distance is the least number of edits

The distance is computed from a table of which one row is kept: the row of a text `u` holds the
least numbers of edits that turn `u` into the longer and longer parts of the other text. Written
down from a column on (`ClusterTutor.Text.cells`), that is the invariant:

| computed | what it is | theorem |
|---|---|---|
| the first row | the row of no character | `ClusterTutor.Text.cells_nil` |
| what fills a row up | the rest of the row of `u ++ [c]` | `ClusterTutor.Text.fillRow_cells` |
| the next row | the row of `u ++ [c]` | `ClusterTutor.Text.nextRow_cells` |
| the last row | the row of the whole text | `ClusterTutor.Text.lastRow_cells` |

The last cell of the last row is the number for the two whole texts. That the longer text is put
on the left, and that equal texts and an empty one need no table, makes no difference to it
(`ClusterTutor.Text.editDistance_eq`).
-/

namespace ClusterTutor.Text

/-! ### Rows -/

/-- **The row of `u` from one column on**: the least numbers of edits that turn `u` into `front`
and into `front` with more and more of what follows it. -/
noncomputable def cells (u front : List Char) : List Char → List Nat
  | [] => [leastEdits u front]
  | d :: back => leastEdits u front :: cells u (front ++ [d]) back

theorem cells_eq_cons (u front back : List Char) :
    cells u front back = leastEdits u front :: (cells u front back).tail := by
  cases back <;> rfl

/-- The last cell is the one for the whole of the other text. -/
theorem getLastD_cells (u front back : List Char) :
    (cells u front back).getLastD 0 = leastEdits u (front ++ back) := by
  induction back generalizing front with
  | nil => simp [cells]
  | cons d back ih =>
    have hrest := ih (front ++ [d])
    rw [cells_eq_cons, List.getLastD_cons, List.append_assoc, List.singleton_append] at hrest
    rw [cells, cells_eq_cons u (front ++ [d]) back, List.getLastD_cons, List.getLastD_cons, hrest]

/-- **The row of no character** counts the characters to insert. -/
theorem cells_nil (front back : List Char) :
    cells [] front back = List.range' front.length (back.length + 1) := by
  induction back generalizing front with
  | nil => simp [cells, leastEdits_nil_left]
  | cons d back ih =>
    rw [cells, ih, leastEdits_nil_left, List.length_append, List.length_singleton,
      List.length_cons, ← List.range'_succ]

/-- **Filling a row**: with the cell on the left and the old row from the cell above that one on,
what is filled in is the rest of the row of one more character. -/
theorem fillRow_cells (c : Char) (u front back : List Char) :
    fillRow c (leastEdits (u ++ [c]) front) back (cells u front back) =
      (cells (u ++ [c]) front back).tail := by
  -- the induction goes along the row: `front` grows, and the cell just filled in is on the left
  induction back generalizing front with
  | nil => rfl
  | cons d back ih =>
    have hcell := leastEdits_concat_concat c d u front
    have hrest := ih (front ++ [d])
    rw [cells_eq_cons u (front ++ [d]) back] at hrest
    rw [cells, cells, List.tail_cons, cells_eq_cons u (front ++ [d]) back, fillRow, ← hcell,
      hrest, ← cells_eq_cons]

/-- **One step**: the next row is the row of one more character. -/
theorem nextRow_cells (c : Char) (u right : List Char) :
    nextRow right c (u.length + 1) (cells u [] right) = cells (u ++ [c]) [] right := by
  have hfirst : leastEdits (u ++ [c]) [] = u.length + 1 := by
    rw [leastEdits_comm, leastEdits_nil_left, List.length_append, List.length_singleton]
  rw [cells_eq_cons (u ++ [c]), ← fillRow_cells, nextRow, hfirst]

/-- **The whole run**: from the row of a first part on, the rows end with that of the whole
text. -/
theorem lastRow_cells (cs u right : List Char) :
    lastRow right cs u.length (cells u [] right) = cells (u ++ cs) [] right := by
  induction cs generalizing u with
  | nil => rw [lastRow, List.append_nil]
  | cons c cs ih =>
    have hrest := ih (u ++ [c])
    rw [List.length_append, List.length_singleton, List.append_assoc] at hrest
    rw [lastRow, nextRow_cells, hrest, List.singleton_append]

/-! ### The distance -/

/-- The table gives the least number of edits, whichever of the two texts is the longer one. -/
theorem rowDistance_eq (left right : List Char) :
    rowDistance left right = leastEdits left right := by
  cases right with
  | nil =>
    rw [leastEdits_comm, leastEdits_nil_left]
    rfl
  | cons d right =>
    have hfirst : List.range ((d :: right).length + 1) = cells [] [] (d :: right) := by
      rw [cells_nil, List.length_nil, List.range_eq_range']
    have hlast := lastRow_cells left [] (d :: right)
    rw [List.length_nil, List.nil_append] at hlast
    rw [rowDistance, List.isEmpty_cons, if_neg Bool.false_ne_true, hfirst, hlast, getLastD_cells,
      List.nil_append]

/-- **The edit distance is the least number of edits.** -/
theorem editDistance_eq (a b : String) :
    editDistance a b = leastEdits a.toList b.toList := by
  rw [editDistance]
  split_ifs with heq hshorter
  · subst heq
    exact (leastEdits_eq_zero_iff.2 rfl).symm
  · rw [rowDistance_eq, leastEdits_comm]
  · exact rowDistance_eq _ _

/-- **The edit distance is a distance**, the one that counts edits: the least number of insertions,
deletions and replacements of single characters that turn one text into the other. So it is zero
only between equal texts, the same in both directions and never shorter by a detour, and it is
at least the difference of the two lengths and at most the greater one. -/
theorem editDistance_isLeast (a b : String) :
    IsLeast {n | Edits n a.toList b.toList} (editDistance a b) ∧
    (editDistance a b = 0 ↔ a = b) ∧
    editDistance a b = editDistance b a ∧
    (∀ c, editDistance a c ≤ editDistance a b + editDistance b c) ∧
    max a.length b.length - min a.length b.length ≤ editDistance a b ∧
    editDistance a b ≤ max a.length b.length := by
  have hthere := length_le_leastEdits a.toList b.toList
  have hback := length_le_leastEdits b.toList a.toList
  have hmax := leastEdits_le_max a.toList b.toList
  rw [leastEdits_comm b.toList] at hback
  simp only [String.length_toList] at hthere hback hmax
  simp only [editDistance_eq]
  refine ⟨isLeast_leastEdits _ _, ?_, leastEdits_comm _ _, fun c => leastEdits_triangle _ _ _,
    by omega, hmax⟩
  rw [leastEdits_eq_zero_iff, String.toList_inj]

/-- Two neighbours that have changed places take two edits. -/
example : editDistance "qurey" "query" = 2 := by decide

end ClusterTutor.Text
