import ClusterTutor.Text.Suggestion
import Mathlib.Data.Finset.Card
import Mathlib.Data.List.Basic
import Mathlib.Data.List.Induction

/-!
# What is suggested for a misspelled word

Which candidates are suggested for a word is said here without sorting
(`ClusterTutor.Text.Selects`): those within the distance, in the order of
`ClusterTutor.Text.Precedes`, each once and not more than so many, such that what is left out
comes after all of them. The suggestions are such a selection
(`ClusterTutor.Text.selects_suggestions`). How many they are is known by counting: as many as
there may be, or else every word that occurs among the candidates within the distance
(`ClusterTutor.Text.suggestions_best`).

Two steps carry this. A stable sort keeps, among items that compare as equal, the order that the
list had before (`ClusterTutor.Text.pairwise_mergeSort_of_pairwise`), and striking out what has
occurred before keeps the order of first occurrences
(`ClusterTutor.Text.pairwise_idxOf_eraseDups`).
-/

namespace ClusterTutor.Text

/-! ### Order kept by sorting -/

/-- Without repetitions a list is in the order of its first occurrences. -/
theorem pairwise_idxOf_eraseDups (xs : List String) :
    xs.eraseDups.Pairwise fun a b => xs.idxOf a < xs.idxOf b := by
  induction xs using List.reverseRecOn with
  | nil => exact List.Pairwise.nil
  | append_singleton xs x ih =>
    have hkept : xs.eraseDups.Pairwise fun a b => (xs ++ [x]).idxOf a < (xs ++ [x]).idxOf b := by
      refine ih.imp_of_mem fun {a b} ha hb hlt => ?_
      rwa [List.idxOf_append_of_mem (List.mem_eraseDups.1 ha),
        List.idxOf_append_of_mem (List.mem_eraseDups.1 hb)]
    rw [List.eraseDups_append]
    by_cases hx : x ∈ xs
    · have hnone : [x].removeAll xs = [] := by simp [List.removeAll, hx]
      simpa [hnone] using hkept
    · have hone : [x].removeAll xs = [x] := by simp [List.removeAll, hx]
      rw [hone, List.eraseDups_cons, List.filter_nil, List.eraseDups_nil, List.pairwise_append]
      refine ⟨hkept, List.pairwise_singleton _ _, fun a ha b hb => ?_⟩
      have hmem : a ∈ xs := List.mem_eraseDups.1 ha
      obtain rfl := List.mem_singleton.1 hb
      rw [List.idxOf_append_of_mem hmem, List.idxOf_append_of_notMem hx]
      exact Nat.lt_add_right _ (List.idxOf_lt_length_iff.2 hmem)

/-- **A stable sort keeps the order of items that compare as equal.** The first item of the list
is put in front of all that it is not above. -/
theorem pairwise_mergeSort_of_pairwise {α : Type} (le : α → α → Bool)
    (trans : ∀ a b c, le a b = true → le b c = true → le a c = true)
    (total : ∀ a b, (le a b || le b a) = true) {r : α → α → Prop} {xs : List α}
    (h : xs.Pairwise r) :
    (xs.mergeSort le).Pairwise fun a b => le a b = true ∧ (le b a = true → r a b) := by
  induction xs with
  | nil => simp
  | cons x xs ih =>
    obtain ⟨hx, hxs⟩ := List.pairwise_cons.1 h
    obtain ⟨front, back, hsorted, hrest, hfront⟩ := List.mergeSort_cons trans total x xs
    have hle := List.pairwise_mergeSort trans total (x :: xs)
    have hmem : ∀ y ∈ back, y ∈ xs := fun y hy => by
      rw [← (List.mergeSort_perm xs le).mem_iff, hrest]
      exact List.mem_append_right _ hy
    have hih := ih hxs
    rw [hrest, List.pairwise_append] at hih
    rw [hsorted, List.pairwise_append, List.pairwise_cons] at hle ⊢
    obtain ⟨hfrontIh, hbackIh, hbetween⟩ := hih
    obtain ⟨-, ⟨hxback, -⟩, hacross⟩ := hle
    refine ⟨hfrontIh, ⟨fun y hy => ⟨hxback y hy, fun _ => hx y (hmem y hy)⟩, hbackIh⟩, ?_⟩
    intro a ha b hb
    rcases List.mem_cons.1 hb with rfl | hb'
    · -- what a stable sort puts in front of the first item is strictly below it
      have habove : le b a = false := by simpa using hfront a ha
      exact ⟨hacross a ha b hb, fun hba => by simp [habove] at hba⟩
    · exact hbetween a ha b hb'

/-! ### What is selected -/

variable {word : String} {candidates : List String} {maxDistance : Int}

/-- **The order of suggestions**: what is nearer to the word comes first, and of what is equally
near, what occurs first among the candidates. -/
def Precedes (word : String) (candidates : List String) (a b : String) : Prop :=
  editDistance word a < editDistance word b ∨
    editDistance word a = editDistance word b ∧ candidates.idxOf a < candidates.idxOf b

instance (word : String) (candidates : List String) (a b : String) :
    Decidable (Precedes word candidates a b) :=
  inferInstanceAs (Decidable (_ ∨ _))

/-- **The best candidates**, so many as there may be. -/
structure Selects (word : String) (candidates : List String) (maxDistance : Int) (limit : Nat)
    (selected : List String) : Prop where
  /-- All are candidates within the distance. -/
  near : ∀ s ∈ selected, s ∈ candidates ∧ (editDistance word s : Int) ≤ maxDistance
  /-- They are in order. -/
  ordered : selected.Pairwise (Precedes word candidates)
  /-- None is there twice. -/
  nodup : selected.Nodup
  /-- There are not too many. -/
  length_le : selected.length ≤ limit
  /-- A candidate within the distance is left out only if there are so many already, which all
  come before it. -/
  complete : ∀ c ∈ candidates, (editDistance word c : Int) ≤ maxDistance → c ∉ selected →
    selected.length = limit ∧ ∀ s ∈ selected, Precedes word candidates s c

theorem not_precedes_self (word : String) (candidates : List String) (a : String) :
    ¬Precedes word candidates a a := by
  simp [Precedes]

theorem Precedes.asymm {a b : String} (h : Precedes word candidates a b) :
    ¬Precedes word candidates b a := by
  simp only [Precedes] at h ⊢
  omega

/-- The candidates near a word, in order. -/
def ranking (word : String) (candidates : List String) (maxDistance : Int) : List String :=
  (nearest word candidates maxDistance).map Prod.snd

theorem mem_ranking {c : String} :
    c ∈ ranking word candidates maxDistance ↔
      c ∈ candidates ∧ (editDistance word c : Int) ≤ maxDistance := by
  simp [ranking, nearest]

/-- What is ranked comes with its distance. -/
theorem fst_eq_of_mem_nearest {p : Nat × String} (hp : p ∈ nearest word candidates maxDistance) :
    p.1 = editDistance word p.2 := by
  rw [nearest, List.mem_mergeSort, List.mem_filter] at hp
  obtain ⟨c, -, rfl⟩ := List.mem_map.1 hp.1
  rfl

/-- **The ranking is in order.** -/
theorem pairwise_ranking (word : String) (candidates : List String) (maxDistance : Int) :
    (ranking word candidates maxDistance).Pairwise (Precedes word candidates) := by
  have hoccur : ((candidates.eraseDups.map fun c => (editDistance word c, c)).filter fun p =>
      decide ((p.1 : Int) ≤ maxDistance)).Pairwise fun p q =>
        candidates.idxOf p.2 < candidates.idxOf q.2 := by
    refine List.Pairwise.filter _ ?_
    rw [List.pairwise_map]
    exact pairwise_idxOf_eraseDups candidates
  have hsorted := pairwise_mergeSort_of_pairwise (fun p q => decide (p.1 ≤ q.1))
    (fun a b c hab hbc => decide_eq_true (Nat.le_trans (of_decide_eq_true hab)
      (of_decide_eq_true hbc)))
    (fun a b => by simp [Nat.le_total]) hoccur
  rw [ranking, List.pairwise_map]
  refine List.Pairwise.imp_of_mem (fun {p q} hp hq hpq => ?_) hsorted
  obtain ⟨hle, htie⟩ := hpq
  have hle' : p.1 ≤ q.1 := of_decide_eq_true hle
  rw [Precedes, ← fst_eq_of_mem_nearest hp, ← fst_eq_of_mem_nearest hq]
  rcases Nat.lt_or_eq_of_le hle' with hlt | heq
  · exact Or.inl hlt
  · exact Or.inr ⟨heq, htie (decide_eq_true (Nat.le_of_eq heq.symm))⟩

theorem nodup_ranking (word : String) (candidates : List String) (maxDistance : Int) :
    (ranking word candidates maxDistance).Nodup := by
  refine (pairwise_ranking word candidates maxDistance).imp fun hab => ?_
  rintro rfl
  exact not_precedes_self _ _ _ hab

/-- **The first of the ranking are a selection.** -/
theorem selects_take_ranking (word : String) (candidates : List String) (maxDistance : Int)
    (limit : Nat) :
    Selects word candidates maxDistance limit
      ((ranking word candidates maxDistance).take limit) := by
  have hordered := pairwise_ranking word candidates maxDistance
  have htake := hordered.sublist (List.take_sublist limit _)
  refine ⟨fun s hs => mem_ranking.1 (List.mem_of_mem_take hs), htake, ?_,
    List.length_take_le _ _, fun c hc hnear hout => ?_⟩
  · exact (nodup_ranking word candidates maxDistance).sublist (List.take_sublist limit _)
  · have hdrop : c ∈ (ranking word candidates maxDistance).drop limit := by
      have hmem : c ∈ ranking word candidates maxDistance := mem_ranking.2 ⟨hc, hnear⟩
      rw [← List.take_append_drop limit (ranking word candidates maxDistance),
        List.mem_append] at hmem
      exact hmem.resolve_left hout
    have hlength : limit < (ranking word candidates maxDistance).length := by
      have hpos := List.length_pos_of_mem hdrop
      rw [List.length_drop] at hpos
      omega
    rw [← List.take_append_drop limit (ranking word candidates maxDistance),
      List.pairwise_append] at hordered
    obtain ⟨-, -, hbetween⟩ := hordered
    exact ⟨List.length_take_of_le (Nat.le_of_lt hlength), fun s hs => hbetween s hs c hdrop⟩

theorem suggestions_eq_take (word : String) (candidates : List String) (maxDistance : Int)
    {limit : Int} (hlimit : 0 ≤ limit) :
    suggestions word candidates maxDistance limit =
      (ranking word candidates maxDistance).take limit.toNat := by
  rw [suggestions, takeInt, if_pos hlimit, ranking, List.map_take]

/-- **Suggestions are a selection**, for any number of them. -/
theorem selects_suggestions (word : String) (candidates : List String) (maxDistance : Int)
    {limit : Int} (hlimit : 0 ≤ limit) :
    Selects word candidates maxDistance limit.toNat
      (suggestions word candidates maxDistance limit) := by
  rw [suggestions_eq_take word candidates maxDistance hlimit]
  exact selects_take_ranking word candidates maxDistance limit.toNat

/-! ### How many are suggested -/

/-- The words within the distance that occur among the candidates. -/
def nearby (word : String) (candidates : List String) (maxDistance : Int) : Finset String :=
  candidates.toFinset.filter fun c => (editDistance word c : Int) ≤ maxDistance

theorem mem_nearby {c : String} :
    c ∈ nearby word candidates maxDistance ↔
      c ∈ candidates ∧ (editDistance word c : Int) ≤ maxDistance := by
  simp [nearby]

/-- **Every word within the distance is ranked once**, however often it occurs. -/
theorem length_ranking (word : String) (candidates : List String) (maxDistance : Int) :
    (ranking word candidates maxDistance).length =
      (nearby word candidates maxDistance).card := by
  have hwords : (ranking word candidates maxDistance).toFinset =
      nearby word candidates maxDistance := by
    ext c
    rw [List.mem_toFinset, mem_ranking, mem_nearby]
  rw [← hwords, List.toFinset_card_of_nodup (nodup_ranking word candidates maxDistance)]

/-- **The suggestions are the best candidates**: of the words within the distance as many as there
may be, each once, the nearer first and the equally near in the order in which they first occur,
and nothing that is left out precedes one of them. Where every candidate is too far there are
none, and a greater limit only adds words at the end. -/
theorem suggestions_best (word : String) (candidates : List String) (maxDistance : Int)
    (limit : Nat) :
    (suggestions word candidates maxDistance limit).Nodup ∧
    (suggestions word candidates maxDistance limit).length =
      min limit (nearby word candidates maxDistance).card ∧
    (suggestions word candidates maxDistance limit).Pairwise (Precedes word candidates) ∧
    (∀ s ∈ suggestions word candidates maxDistance limit,
      s ∈ nearby word candidates maxDistance) ∧
    (∀ c ∈ nearby word candidates maxDistance,
      c ∉ suggestions word candidates maxDistance limit →
        ∀ s ∈ suggestions word candidates maxDistance limit,
          ¬Precedes word candidates c s) ∧
    ((∀ c ∈ candidates, maxDistance < editDistance word c) →
      suggestions word candidates maxDistance limit = []) ∧
    ∀ more : Nat, limit ≤ more →
      suggestions word candidates maxDistance limit <+:
        suggestions word candidates maxDistance more := by
  have htake : ∀ k : Nat, suggestions word candidates maxDistance k =
      (ranking word candidates maxDistance).take k := fun k =>
    suggestions_eq_take word candidates maxDistance (Int.natCast_nonneg k)
  have hsel := selects_take_ranking word candidates maxDistance limit
  simp only [htake]
  refine ⟨hsel.nodup, ?_, hsel.ordered, ?_, ?_, ?_, ?_⟩
  · rw [List.length_take, length_ranking]
  · exact fun s hs => mem_nearby.2 (hsel.near s hs)
  · intro c hc hout s hs
    obtain ⟨hcand, hnear⟩ := mem_nearby.1 hc
    exact ((hsel.complete c hcand hnear hout).2 s hs).asymm
  · intro hfar
    rw [List.eq_nil_iff_forall_not_mem]
    intro s hs
    obtain ⟨hcand, hnear⟩ := hsel.near s hs
    exact absurd hnear (not_le.2 (hfar s hcand))
  · intro more hmore
    exact List.take_prefix_take_left hmore

end ClusterTutor.Text
