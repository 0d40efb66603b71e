import ClusterTutor.Proofs.Hint.NextHint
import ClusterTutor.Proofs.Text.NameSet

/-!
# Every hint is shown in the end

A learner who meets all triggers of a step asks for one hint after another. What was revealed is
remembered by name, and how many hints there are is counted by the list, so the two agree only
where no two hints have one name. Then the `j`-th call reveals the `j`-th hint in the order of
levels and positions (`ClusterTutor.Hint.revealNext_afterFirst`), and `n` calls reveal all `n`
hints (`ClusterTutor.Hint.reveals_every_hint`). Hints that are given no name are named by their
position, and two positions are two names (`ClusterTutor.Hint.nodup_of_unnamed`).
-/

namespace ClusterTutor

namespace Hint

variable {hs : List Hint} {a : StepActivity}

/-! ### The names of hints -/

/-- Whether an item of a list of hints says no name for its hint. -/
def IsUnnamed (item : Value) : Prop :=
  ∀ fields, item = .object fields → fields.lookup "id" = none

/-- The name of a hint that is given none. -/
def positionName (index : Nat) : String :=
  s!"hint-{index}"

theorem positionName_injective : Function.Injective positionName := by
  intro i j heq
  have hlist := congrArg String.toList heq
  simp only [positionName, toString, String.toList_append] at hlist
  exact Nat.repr_inj.1 (String.toList_inj.1 (by simpa using hlist))

theorem id_of_unnamed {item : Value} (hunnamed : IsUnnamed item) {index : Nat} {h : Hint}
    (hread : ofValue index item = .ok h) : h.id = positionName index := by
  cases item with
  | string s =>
    obtain rfl := Except.ok.inj hread
    rfl
  | object fields =>
    have hname : (Value.object fields).textField "id" (positionName index) =
        .ok (positionName index) := by
      rw [Value.textField, Value.optional, hunnamed fields rfl]
      rfl
    simp only [ofValue, bind_eq_ok] at hread
    obtain ⟨_, -, _, -, id, hid, _, -, _, -, _, -, _, -, _, -, _, -, hread⟩ := hread
    obtain rfl := Except.ok.inj hread
    exact (Except.ok.inj (hname.symm.trans hid)).symm
  | _ => cases hread

theorem ids_of_unnamed {items : List Value} (hunnamed : ∀ item ∈ items, IsUnnamed item)
    {index : Nat} (hread : listFrom index items = .ok hs) :
    hs.map Hint.id = (List.range' index items.length).map positionName := by
  induction items generalizing index hs with
  | nil =>
    obtain rfl := Except.ok.inj hread
    rfl
  | cons item items ih =>
    obtain ⟨hitem, hitems⟩ := List.forall_mem_cons.1 hunnamed
    rw [listFrom] at hread
    obtain ⟨h, hhint, hread⟩ := bind_eq_ok.1 hread
    obtain ⟨rest, hrest, hread⟩ := bind_eq_ok.1 hread
    obtain rfl := Except.ok.inj hread
    rw [List.map_cons, id_of_unnamed hitem hhint, ih hitems hrest]
    rfl

/-- **Hints that are given no names have different ones.** -/
theorem nodup_of_unnamed {v : Value} {items : List Value} (hread : listOf v = .ok hs)
    (hitems : v.parts = .ok items) (hunnamed : ∀ item ∈ items, IsUnnamed item) :
    (hs.map Hint.id).Nodup := by
  rw [listOf, hitems] at hread
  rw [ids_of_unnamed hunnamed hread]
  exact List.Nodup.map positionName_injective List.nodup_range'

/-! ### Asking for one hint after another -/

/-- Asks for the next hint so many times: what is answered, and the activity after it. -/
def revealTimes (hs : List Hint) :
    Nat → StepActivity → Except HintFault (List (Option Hint) × StepActivity)
  | 0, a => .ok ([], a)
  | k + 1, a => do
    let (h, a) ← revealNext hs a
    let (rest, a) ← revealTimes hs k a
    return (h :: rest, a)

/-- **Nothing holds a hint back**: the triggers of all hints are met, and no line was typed of a
form that holds one back. -/
def Unhindered (hs : List Hint) (a : StepActivity) : Prop :=
  ∀ h ∈ hs, h.trigger.isMet a = .ok true ∧ h.heldBackBy.any (·.matchesAny a.typed) = false

/-- The activity of a learner to whom the first `j` hints in order were revealed. -/
def afterFirst (hs : List Hint) (j : Nat) (a : StepActivity) : StepActivity :=
  { a with revealed := .ofList (((ordered hs).take j).map Hint.id) }

theorem mem_ordered {h : Hint} : h ∈ ordered hs ↔ h ∈ hs :=
  List.mem_mergeSort

theorem length_ordered (hs : List Hint) : (ordered hs).length = hs.length :=
  List.length_mergeSort hs

theorem nodup_ids_ordered (hdistinct : (hs.map Hint.id).Nodup) :
    ((ordered hs).map Hint.id).Nodup :=
  ((List.mergeSort_perm hs _).map Hint.id).nodup_iff.2 hdistinct

theorem mem_revealed_afterFirst {j : Nat} {x : String} :
    x ∈ (afterFirst hs j a).revealed ↔ x ∈ ((ordered hs).take j).map Hint.id :=
  NameSet.mem_ofList _ x

/-- Without hindrance a hint is available, whatever was revealed. -/
theorem Unhindered.isAvailable (hfree : Unhindered hs a) {h : Hint} (hmem : h ∈ hs) (j : Nat) :
    h.isAvailable (afterFirst hs j a) = .ok true := by
  obtain ⟨hmet, hheld⟩ := hfree h hmem
  have hmet' : h.trigger.isMet (afterFirst hs j a) = .ok true := hmet
  have hheld' : h.heldBackBy.any (·.matchesAny (afterFirst hs j a).typed) = false := hheld
  rw [Hint.isAvailable, hmet']
  split
  · rfl
  · simp [bind, Except.bind, hheld', pure, Except.pure]

/-- **After the first `j` hints, the `j`-th is found next**, counted from zero: no hint before it
is open, since its name was revealed, and the hint itself is, since its name is not among them. -/
theorem find?_openNow_afterFirst (hdistinct : (hs.map Hint.id).Nodup) (hfree : Unhindered hs a)
    (j : Nat) : (ordered hs).find? (openNow (afterFirst hs j a)) = (ordered hs)[j]? := by
  have hopen : ∀ h ∈ ordered hs, h.id ∉ ((ordered hs).take j).map Hint.id →
      openNow (afterFirst hs j a) h = true := fun h hmem hnew =>
    openNow_iff.2 ⟨hfree.isAvailable (mem_ordered.1 hmem) j,
      fun hshown => hnew (mem_revealed_afterFirst.1 hshown)⟩
  have hdone : ((ordered hs).take j).find? (openNow (afterFirst hs j a)) = none := by
    refine List.find?_eq_none.2 fun h hmem hopen => (openNow_iff.1 hopen).unrevealed ?_
    exact mem_revealed_afterFirst.2 (List.mem_map_of_mem hmem)
  have hnodup := nodup_ids_ordered hdistinct
  rw [← List.take_append_drop j (ordered hs), List.map_append, List.nodup_append] at hnodup
  conv_lhs => rw [← List.take_append_drop j (ordered hs), List.find?_append, hdone, Option.none_or]
  rw [← List.head?_drop]
  cases hrest : (ordered hs).drop j with
  | nil => rfl
  | cons h rest =>
    have hmem : h ∈ (ordered hs).drop j := by
      rw [hrest]
      exact List.mem_cons_self
    refine List.find?_cons_of_pos (hopen h (List.mem_of_mem_drop hmem) fun hshown => ?_)
    exact hnodup.2.2 _ hshown _ (List.mem_map_of_mem hmem) rfl

theorem afterFirst_succ {j : Nat} {h : Hint} (hj : (ordered hs)[j]? = some h) :
    { afterFirst hs j a with revealed := (afterFirst hs j a).revealed.insert h.id } =
      afterFirst hs (j + 1) a := by
  obtain ⟨hlt, rfl⟩ := List.getElem?_eq_some_iff.1 hj
  simp only [afterFirst, List.take_succ_eq_append_getElem hlt, List.map_append, List.map_singleton,
    NameSet.ofList_concat]

theorem afterFirst_of_length_le {j : Nat} (hj : (ordered hs).length ≤ j) :
    afterFirst hs (j + 1) a = afterFirst hs j a := by
  rw [afterFirst, afterFirst, List.take_of_length_le hj, List.take_of_length_le (by omega)]

/-- How hints stand after the first `j`. -/
theorem exists_of_afterFirst (hdistinct : (hs.map Hint.id).Nodup) (hfree : Unhindered hs a)
    (j : Nat) : ∃ status, HintStatus.of hs (afterFirst hs j a) = .ok status ∧
      status.revealedCount = ((ordered hs).take j).length ∧ status.totalCount = hs.length ∧
      status.next = (ordered hs)[j]? := by
  obtain ⟨status, hof, hcount, htotal, -, hnext⟩ :=
    HintStatus.exists_of_eq fun h hmem => ⟨true, hfree.isAvailable hmem j⟩
  refine ⟨status, hof, ?_, htotal, hnext.trans (find?_openNow_afterFirst hdistinct hfree j)⟩
  have hshown : (((ordered hs).take j).map Hint.id).Nodup :=
    (nodup_ids_ordered hdistinct).sublist ((List.take_sublist j _).map Hint.id)
  have hknown : ∀ id ∈ (afterFirst hs j a).revealed, id ∈ hs.map Hint.id := by
    intro id hid
    obtain ⟨h, hmem, rfl⟩ := List.mem_map.1 (mem_revealed_afterFirst.1 hid)
    exact List.mem_map_of_mem (mem_ordered.1 (List.mem_of_mem_take hmem))
  rw [hcount, HintStatus.countOf_eq_size hknown, afterFirst, NameSet.size_ofList hshown,
    List.length_map]

/-- **One call**: after the first `j` hints the `j`-th is revealed, counted from zero, or none if
there is none. -/
theorem revealNext_afterFirst (hdistinct : (hs.map Hint.id).Nodup) (hfree : Unhindered hs a)
    (j : Nat) :
    revealNext hs (afterFirst hs j a) = .ok ((ordered hs)[j]?, afterFirst hs (j + 1) a) := by
  obtain ⟨status, hof, -, -, hnext⟩ := exists_of_afterFirst hdistinct hfree j
  cases hj : (ordered hs)[j]? with
  | some h => rw [revealNext_of_next hof (hnext.trans hj), afterFirst_succ hj]
  | none =>
    rw [revealNext_of_none hof (hnext.trans hj),
      afterFirst_of_length_le (List.getElem?_eq_none_iff.1 hj)]

/-- **As many calls as there are hints left** reveal all of them in order. -/
theorem revealTimes_afterFirst (hdistinct : (hs.map Hint.id).Nodup) (hfree : Unhindered hs a)
    {j : Nat} {rest : List Hint} (hrest : (ordered hs).drop j = rest) :
    revealTimes hs rest.length (afterFirst hs j a) =
      .ok (rest.map some, afterFirst hs (j + rest.length) a) := by
  induction rest generalizing j with
  | nil => rfl
  | cons h rest ih =>
    have hj : (ordered hs)[j]? = some h := by rw [← List.head?_drop, hrest, List.head?_cons]
    have hdrop : (ordered hs).drop (j + 1) = rest := by
      rw [← List.drop_drop, hrest, List.drop_one, List.tail_cons]
    rw [List.length_cons, revealTimes, revealNext_afterFirst hdistinct hfree, hj]
    simp only [bind, Except.bind, ih hdrop]
    rw [List.map_cons, Nat.add_right_comm]
    rfl

end Hint

/-! ### All hints -/

/-- What the status line says in the end. -/
def HintStatus.lastLine (n : Nat) : String :=
  if n = 0 then "No hints available for this step." else s!"All hints revealed ({n}/{n})."

theorem HintStatus.line_of_all {status : HintStatus}
    (hall : status.revealedCount = status.totalCount) :
    status.line = lastLine status.totalCount := by
  simp [line, lastLine, hall]

namespace Hint

/-- **All hints are shown**: asked for as many times as there are hints, each of them comes once,
in the order of levels and positions. Then none comes, and the hints stand as `line` says. -/
def ShowsAll (hs : List Hint) (a : StepActivity) (line : String) : Prop :=
  ∃ (placed : List (Hint × Nat)) (a' : StepActivity),
    placed.Perm hs.zipIdx ∧ placed.Pairwise Precedes ∧
    revealTimes hs hs.length a = .ok (placed.map fun x => some x.1, a') ∧
    revealNext hs a' = .ok (none, a') ∧
    (HintStatus.of hs a').map HintStatus.line = .ok line

variable {hs : List Hint} {a : StepActivity}

/-- Where no two hints have one name, all are shown to a learner whom nothing hinders. -/
theorem showsAll_of_nodup (hdistinct : (hs.map Hint.id).Nodup) (hnone : a.revealed = .empty)
    (hfree : Unhindered hs a) : ShowsAll hs a (HintStatus.lastLine hs.length) := by
  obtain ⟨placed, hperm, hsorted, hplaced⟩ := exists_placed_ordered hs
  have hstart : afterFirst hs 0 a = a := by
    obtain ⟨elapsed, failedAttempts, typed, revealed⟩ := a
    obtain rfl : revealed = .empty := hnone
    rfl
  have hall : (ordered hs).length = hs.length := length_ordered hs
  refine ⟨placed, afterFirst hs hs.length a, hperm, hsorted, ?_, ?_, ?_⟩
  · have htimes := revealTimes_afterFirst hdistinct hfree (j := 0) List.drop_zero
    rw [hstart, hall, Nat.zero_add, ← hplaced, List.map_map] at htimes
    exact htimes
  · rw [revealNext_afterFirst hdistinct hfree, List.getElem?_eq_none hall.le,
      afterFirst_of_length_le hall.le]
  · obtain ⟨status, hof, hcount, htotal, -⟩ := exists_of_afterFirst hdistinct hfree hs.length
    rw [← hall, List.take_length, hall, ← htotal] at hcount
    rw [← htotal, ← HintStatus.line_of_all hcount, htotal, hof]
    rfl

/-- **Every hint is shown in the end.** The hints `hs` were read from a value. If no item says a
name, no two hints have one name. If no two have, then a learner who has seen none of them, who
meets all triggers and typed no line that holds a hint back, is shown all of them. -/
theorem reveals_every_hint {v : Value} (hread : listOf v = .ok hs) :
    ((∀ items, v.parts = .ok items → ∀ item ∈ items, IsUnnamed item) →
      (hs.map Hint.id).Nodup) ∧
    ((hs.map Hint.id).Nodup → ∀ a : StepActivity, a.revealed = .empty → Unhindered hs a →
      ShowsAll hs a (HintStatus.lastLine hs.length)) := by
  refine ⟨fun hunnamed => ?_, fun hdistinct a hnone hfree =>
    showsAll_of_nodup hdistinct hnone hfree⟩
  obtain ⟨items, hitems, -⟩ := bind_eq_ok.1 hread
  exact nodup_of_unnamed hread hitems (hunnamed items hitems)

/-- Hints of which one is named, one has a trigger, and one is a text. -/
def mixedItems : Value :=
  .array [
    .object [("id", .string "answer"), ("level", .int 3), ("message", .string "Run nvtop.")],
    .string "Try a viewer.",
    .object [("message", .string "Look around."),
      ("trigger", .object [("type", .string "attempts"), ("count", .int 2)])]]

/-- The hints that are read of them. -/
def mixedHints : List Hint :=
  [{ id := "answer", level := 3, message := "Run nvtop." },
    { id := "hint-1", level := 2, message := "Try a viewer." },
    { id := "hint-2", level := 1, message := "Look around.",
      trigger := { kind := .string "attempts", count := .int 2 } }]

/-- After two failures a learner is shown all three. -/
theorem mixedHints_all_shown :
    listOf mixedItems = .ok mixedHints ∧ (mixedHints.map Hint.id).Nodup ∧
      ShowsAll mixedHints { failedAttempts := 2 } "All hints revealed (3/3)." := by
  have hread : listOf mixedItems = .ok mixedHints := by rfl
  have hdistinct : (mixedHints.map Hint.id).Nodup := by decide
  have hfree : Unhindered mixedHints { failedAttempts := 2 } := by
    intro h hmem
    fin_cases hmem <;> exact ⟨rfl, rfl⟩
  exact ⟨hread, hdistinct, (reveals_every_hint hread).2 hdistinct _ rfl hfree⟩

/-- Hints of one name. -/
def sharedItems : Value :=
  .array [.object [("id", .string "a"), ("message", .string "x")],
    .object [("id", .string "a"), ("message", .string "y")]]

/-- The hints that are read of them. -/
def sharedHints : List Hint :=
  [{ id := "a", level := 1, message := "x" }, { id := "a", level := 1, message := "y" }]

/-- Without hints the status does not say that all were revealed, and of two hints of one name the
second is not shown. -/
theorem second_of_shared_not_shown :
    (listOf (.array []) = .ok [] ∧ Unhindered [] {} ∧
      ¬ShowsAll [] {} "All hints revealed (0/0).") ∧
    listOf sharedItems = .ok sharedHints ∧ Unhindered sharedHints {} ∧
      ¬ShowsAll sharedHints {} "All hints revealed (2/2)." := by
  refine ⟨⟨rfl, fun h hmem => (List.not_mem_nil hmem).elim, ?_⟩, rfl, ?_, ?_⟩
  · rintro ⟨placed, a', -, -, htimes, -, hline⟩
    obtain ⟨-, rfl⟩ := Prod.mk.inj (Except.ok.inj htimes)
    have hnone : (HintStatus.of [] {}).map HintStatus.line =
        .ok "No hints available for this step." := by
      simp only [HintStatus.of, ordered, List.mergeSort_nil]
      rfl
    exact absurd (Except.ok.inj (hnone.symm.trans hline)) (by decide)
  · intro h hmem
    fin_cases hmem <;> exact ⟨rfl, rfl⟩
  · rintro ⟨placed, a', -, -, htimes, -⟩
    have hordered : ordered sharedHints = sharedHints := List.mergeSort_of_pairwise (by decide)
    have hanswers : revealTimes sharedHints 2 {} =
        .ok ([sharedHints.head?, none], { revealed := .ofList ["a"] }) := by
      simp only [revealTimes, revealNext, HintStatus.of, hordered]
      rfl
    obtain ⟨hplaced, -⟩ := Prod.mk.inj (Except.ok.inj (htimes.symm.trans hanswers))
    have hmem : (none : Option Hint) ∈ placed.map fun x => some x.1 := by
      rw [hplaced]
      exact List.mem_cons_of_mem _ List.mem_cons_self
    obtain ⟨_, -, hshown⟩ := List.mem_map.1 hmem
    cases hshown

end Hint

end ClusterTutor
