import ClusterTutor.Proofs.Content.Labs
import ClusterTutor.Proofs.Text.Suggestion

/-!
# The next hint

Which hint is revealed next is found by sorting and filtering: the hints of a step are sorted by
level, the available ones are kept, and of these the first one is taken that was not revealed.
Said without the sorting, it is the first in the order of levels, and among hints of one level in
the order of the content, of the hints that are *open*, that is, available and not revealed
(`ClusterTutor.Hint.ComesNext`).

The status line is chosen by other means. It compares how many names were revealed with how many
hints there are, and names may repeat. It announces a hint all the same exactly if there is a next
one, because the name of an open hint is one that was not counted
(`ClusterTutor.HintStatus.countOf_lt`).
-/

namespace ClusterTutor

namespace Hint

/-! ### Open hints -/

/-- A hint is **open**: it is available, and it was not revealed. -/
structure IsOpen (h : Hint) (a : StepActivity) : Prop where
  /-- The hint is available. -/
  available : h.isAvailable a = .ok true
  /-- It was not revealed. -/
  unrevealed : h.id ∉ a.revealed

/-- **The hint that comes next**: the first open one in the order of levels, and among hints of
one level in the order of the list. -/
structure ComesNext (hs : List Hint) (a : StepActivity) (h : Hint) : Prop where
  /-- The hint is open. -/
  isOpen : h.IsOpen a
  /-- No open hint stands before it. -/
  first : ∃ i : Nat, hs[i]? = some h ∧ ∀ (j : Nat) (g : Hint), hs[j]? = some g → g.IsOpen a →
    h.level < g.level ∨ h.level = g.level ∧ i ≤ j

/-- Whether a hint is available. A fault counts as no. -/
def availableNow (a : StepActivity) (h : Hint) : Bool :=
  (h.isAvailable a).toOption.getD false

/-- Whether a hint is open. A fault counts as no. -/
def openNow (a : StepActivity) (h : Hint) : Bool :=
  availableNow a h && !a.revealed.contains h.id

variable {hs : List Hint} {a : StepActivity} {h : Hint}

theorem ComesNext.mem (hnext : ComesNext hs a h) : h ∈ hs := by
  obtain ⟨i, hi, -⟩ := hnext.first
  exact List.mem_of_getElem? hi

theorem availableNow_iff : availableNow a h = true ↔ h.isAvailable a = .ok true := by
  rw [availableNow]
  cases h.isAvailable a with
  | ok b => simp [Except.toOption]
  | error fault => simp [Except.toOption]

theorem openNow_iff : openNow a h = true ↔ h.IsOpen a := by
  rw [openNow, Bool.and_eq_true, availableNow_iff, Bool.not_eq_true', ← Bool.not_eq_true,
    NameSet.contains_iff]
  exact ⟨fun ⟨havailable, hunrevealed⟩ => ⟨havailable, hunrevealed⟩,
    fun hopen => ⟨hopen.available, hopen.unrevealed⟩⟩

/-- A revealed hint is available, whatever its trigger says. -/
theorem isAvailable_of_revealed (hmem : h.id ∈ a.revealed) : h.isAvailable a = .ok true := by
  rw [isAvailable, if_pos ((NameSet.contains_iff _ _).2 hmem)]

theorem filterAvailable_eq (hdecided : ∀ h ∈ hs, ∃ b, h.isAvailable a = .ok b) :
    filterAvailable a hs = .ok (hs.filter (availableNow a)) := by
  induction hs with
  | nil => rfl
  | cons h hs ih =>
    obtain ⟨⟨b, hb⟩, hrest⟩ := List.forall_mem_cons.1 hdecided
    have hnow : availableNow a h = b := by rw [availableNow, hb]; rfl
    rw [filterAvailable, hb, ih hrest, List.filter_cons, hnow]
    rfl

/-! ### The order of hints -/

/-- **The order of hints** with their positions: by level, and in one level by position. -/
def Precedes (x y : Hint × Nat) : Prop :=
  x.1.level < y.1.level ∨ x.1.level = y.1.level ∧ x.2 < y.2

/-- Sorting by level keeps the order of the list among hints of one level. -/
theorem exists_placed_ordered (hs : List Hint) :
    ∃ placed : List (Hint × Nat), placed.Perm hs.zipIdx ∧ placed.Pairwise Precedes ∧
      placed.map Prod.fst = ordered hs := by
  -- The hints are sorted together with their positions.
  let le : Hint × Nat → Hint × Nat → Bool := fun x y => decide (x.1.level ≤ y.1.level)
  have hpositions : hs.zipIdx.Pairwise fun x y => x.2 < y.2 := by
    rw [← List.pairwise_map, List.zipIdx_map_snd]
    exact List.pairwise_lt_range'
  have hsorted := Text.pairwise_mergeSort_of_pairwise le
    (fun x y z hxy hyz => decide_eq_true ((of_decide_eq_true hxy).trans (of_decide_eq_true hyz)))
    (fun x y => by simpa [le] using le_total x.1.level y.1.level) hpositions
  refine ⟨hs.zipIdx.mergeSort le, List.mergeSort_perm _ _, hsorted.imp ?_, ?_⟩
  · intro x y ⟨hle, hposition⟩
    rcases lt_or_eq_of_le (of_decide_eq_true hle) with hlt | hsame
    · exact .inl hlt
    · exact .inr ⟨hsame, hposition (decide_eq_true hsame.ge)⟩
  · rw [List.map_mergeSort (r := le) (s := fun g h => decide (g.level ≤ h.level))
      fun _ _ _ _ => rfl, List.zipIdx_map_fst]
    rfl

/-- What is found first in the sorted list is first by level and then by position. -/
theorem exists_first_of_find?_ordered {p : Hint → Bool} (h : Hint)
    (hfind : (ordered hs).find? p = some h) :
    ∃ i : Nat, hs[i]? = some h ∧ ∀ (j : Nat) (g : Hint), hs[j]? = some g → p g = true →
      h.level < g.level ∨ h.level = g.level ∧ i ≤ j := by
  obtain ⟨placed, hperm, hsorted, hordered⟩ := exists_placed_ordered hs
  rw [← hordered, List.find?_map, Option.map_eq_some_iff] at hfind
  obtain ⟨⟨h, i⟩, hfind, rfl⟩ := hfind
  obtain ⟨-, before, behind, heq, hbefore⟩ := List.find?_eq_some_iff_append.1 hfind
  have hi : (h, i) ∈ hs.zipIdx := hperm.mem_iff.1 (List.mem_of_find?_eq_some hfind)
  refine ⟨i, List.mk_mem_zipIdx_iff_getElem?.1 hi, fun j g hg hpg => ?_⟩
  have hg : (g, j) ∈ placed := hperm.mem_iff.2 (List.mk_mem_zipIdx_iff_getElem?.2 hg)
  rw [heq, List.pairwise_append, List.pairwise_cons] at hsorted
  rw [heq, List.mem_append, List.mem_cons] at hg
  rcases hg with hg | hg | hg
  · have hnot := hbefore _ hg
    simp [hpg] at hnot
  · obtain ⟨rfl, rfl⟩ := Prod.ext_iff.1 hg
    exact .inr ⟨rfl, le_rfl⟩
  · exact (hsorted.2.1.1 _ hg).imp_right fun ⟨hsame, hlt⟩ => ⟨hsame, hlt.le⟩

theorem comesNext_of_find? (hfind : (ordered hs).find? (openNow a) = some h) :
    ComesNext hs a h := by
  obtain ⟨i, hi, hfirst⟩ := exists_first_of_find?_ordered h hfind
  exact ⟨openNow_iff.1 (List.find?_some hfind),
    i, hi, fun j g hg hopen => hfirst j g hg (openNow_iff.2 hopen)⟩

theorem not_isOpen_of_find?_eq_none (hfind : (ordered hs).find? (openNow a) = none) :
    ∀ h ∈ hs, ¬h.IsOpen a := by
  intro h hmem hopen
  exact List.find?_eq_none.1 hfind h (List.mem_mergeSort.2 hmem) (openNow_iff.2 hopen)

/-! ### Numbers in texts -/

/-- A number that a slash follows can be read off a text. -/
theorem eq_of_append_repr_eq {k k' : Nat} {before rest rest' : String}
    (h : before ++ (k.repr ++ ("/" ++ rest)) = before ++ (k'.repr ++ ("/" ++ rest'))) : k = k' := by
  have hdigits : ∀ (m : Nat) (rest : String),
      (m.repr ++ ("/" ++ rest)).toList.takeWhile (· != '/') = m.repr.toList := by
    intro m rest
    rw [String.toList_append, String.toList_append, List.takeWhile_append_of_pos]
    · exact List.append_nil _
    · intro c hc
      rw [Nat.repr_eq_ofList_toDigits, String.toList_ofList] at hc
      have hdigit := Nat.isDigit_of_mem_toDigits (by decide) (by decide) hc
      rw [bne_iff_ne]
      rintro rfl
      exact absurd hdigit (by decide)
  have hlist := congrArg String.toList h
  rw [String.toList_append, String.toList_append (s := before)] at hlist
  have hread := congrArg (List.takeWhile (· != '/')) (List.append_cancel_left hlist)
  rw [hdigits, hdigits] at hread
  exact Nat.repr_inj.1 (String.toList_inj.1 hread)

/-- The page of a hint says its number. -/
theorem index_eq_of_page_eq {g : Hint} {k k' n : Nat} (heq : g.page k n = h.page k' n) :
    k = k' := by
  have hpage : ∀ (h : Hint) (k : Nat), h.page k n =
      "HINT " ++ (k.repr ++ ("/" ++ (n.repr ++ (" - " ++ (levelName h.level ++
        ("\n  " ++ h.message)))))) := by
    intro h k
    simp only [page, toString, String.append_assoc]
  rw [hpage, hpage] at heq
  exact eq_of_append_repr_eq heq

end Hint

namespace HintStatus

/-- The line that announces a hint. -/
def announcement (k n : Nat) : String :=
  s!"Hint available ({k}/{n}). Type :hint to see it."

theorem announcement_eq (k n : Nat) : announcement k n =
    "Hint available (" ++ (k.repr ++ ("/" ++ (n.repr ++ "). Type :hint to see it."))) := by
  unfold announcement
  simp only [toString, String.append_assoc]

/-- The announcement of a hint says its number. -/
theorem index_eq_of_announcement_eq {k k' n : Nat} (heq : announcement k n = announcement k' n) :
    k = k' := by
  rw [announcement_eq, announcement_eq] at heq
  exact Hint.eq_of_append_repr_eq heq

/-! ### How hints stand -/

variable {hs : List Hint} {a : StepActivity} {status : HintStatus}

/-- How many of the revealed names are names of hints. -/
def countOf (hs : List Hint) (a : StepActivity) : Nat :=
  (a.revealed.toList.filter fun id => hs.any fun h => h.id == id).length

/-- **How hints stand**, when it can be said of each whether it is available. -/
theorem exists_of_eq (hdecided : ∀ h ∈ hs, ∃ b, h.isAvailable a = .ok b) :
    ∃ status, of hs a = .ok status ∧ status.revealedCount = countOf hs a ∧
      status.totalCount = hs.length ∧
      status.available = (Hint.ordered hs).filter (Hint.availableNow a) ∧
      status.next = (Hint.ordered hs).find? (Hint.openNow a) := by
  have hordered : ∀ h ∈ Hint.ordered hs, ∃ b, h.isAvailable a = .ok b :=
    fun h hmem => hdecided h (List.mem_mergeSort.1 hmem)
  have hof := Hint.filterAvailable_eq hordered
  refine ⟨_, by rw [of, hof]; rfl, rfl, rfl, rfl, ?_⟩
  rw [List.find?_filter]
  refine congrArg (List.find? · _) (funext fun h => ?_)
  rw [Hint.openNow, Bool.decide_and, Bool.decide_eq_true, Bool.decide_eq_true]

/-- **The name of an unrevealed hint is one that is not counted**: fewer names were revealed than
there are hints, also where names repeat. -/
theorem countOf_lt {h : Hint} (hmem : h ∈ hs) (hunrevealed : h.id ∉ a.revealed) :
    countOf hs a < hs.length := by
  rw [countOf]
  generalize hcounted : (a.revealed.toList.filter fun id => hs.any fun h => h.id == id) = counted
  have hnodup : (h.id :: counted).Nodup := by
    subst hcounted
    refine List.nodup_cons.2 ⟨fun hcounted => hunrevealed (List.mem_filter.1 hcounted).1, ?_⟩
    exact (a.revealed.increasing.imp fun hlt => String.ne_of_lt hlt).filter _
  have hsubset : h.id :: counted ⊆ hs.map Hint.id := by
    refine List.cons_subset.2 ⟨List.mem_map_of_mem hmem, fun id hid => ?_⟩
    subst hcounted
    obtain ⟨g, hg, heq⟩ := List.any_eq_true.1 (List.mem_filter.1 hid).2
    exact List.mem_map.2 ⟨g, hg, beq_iff_eq.1 heq⟩
  have hle := (List.subperm_of_subset hnodup hsubset).length_le
  rwa [List.length_cons, List.length_map] at hle

/-- Where all revealed names are names of hints, all of them are counted. -/
theorem countOf_eq_size (hknown : ∀ id ∈ a.revealed, id ∈ hs.map Hint.id) :
    countOf hs a = a.revealed.size := by
  refine congrArg List.length (List.filter_eq_self.2 fun id hid => List.any_eq_true.2 ?_)
  obtain ⟨h, hmem, heq⟩ := List.mem_map.1 (hknown id hid)
  exact ⟨h, hmem, beq_iff_eq.2 heq⟩

theorem line_of_next (hnext : status.next.isSome = true)
    (hcount : status.revealedCount < status.totalCount) :
    status.line = announcement (status.revealedCount + 1) status.totalCount := by
  have hsome : (status.totalCount == 0) = false := by simp; omega
  have hmore : (status.revealedCount == status.totalCount) = false := by simp; omega
  rw [line, hsome, hmore, hnext]
  rfl

/-- Without a next hint, the line is another one. -/
theorem line_ne_announcement (hnext : status.next = none) (k n : Nat) :
    status.line ≠ announcement k n := by
  rw [announcement_eq, line, hnext]
  intro heq
  -- The first letters differ.
  have hfirst := congrArg (fun s => s.toList.head?) heq
  split at hfirst
  · simp at hfirst
  · split at hfirst
    · simp [toString] at hfirst
    · simp [toString] at hfirst

end HintStatus

end ClusterTutor
