/-!
# Sets of names

A set of names is kept as the list of its members in strictly increasing order, so that
two sets with the same members are the same value.
-/

namespace ClusterTutor

/-- A finite set of texts. -/
structure NameSet where
  /-- The members in order. -/
  toList : List String
  /-- The members increase. -/
  increasing : toList.Pairwise (· < ·)
deriving DecidableEq

namespace NameSet

/-- A name put at its place in a list of names, unless it is there. -/
def place (s : String) : List String → List String
  | [] => [s]
  | t :: ts => if s < t then s :: t :: ts else if s = t then t :: ts else t :: place s ts

@[simp] theorem mem_place (s t : String) (ts : List String) :
    t ∈ place s ts ↔ t = s ∨ t ∈ ts := by
  induction ts with
  | nil => simp [place]
  | cons u us ih =>
    simp only [place]
    split
    · simp
    · split
      · rename_i h
        simp [h]
      · simp only [List.mem_cons, ih]
        exact ⟨fun h => by rcases h with h | h | h <;> simp [h],
          fun h => by rcases h with h | h | h <;> simp [h]⟩

theorem increasing_place (s : String) {ts : List String} (h : ts.Pairwise (· < ·)) :
    (place s ts).Pairwise (· < ·) := by
  induction ts with
  | nil => simp [place]
  | cons u us ih =>
    obtain ⟨hu, hus⟩ := List.pairwise_cons.1 h
    simp only [place]
    split
    · rename_i hs
      refine List.pairwise_cons.2 ⟨fun v hv => ?_, h⟩
      rcases List.mem_cons.1 hv with rfl | hv
      · exact hs
      · exact String.lt_trans hs (hu v hv)
    · rename_i hs
      split
      · exact h
      · rename_i hne
        refine List.pairwise_cons.2 ⟨fun v hv => ?_, ih hus⟩
        rcases (mem_place s v us).1 hv with rfl | hv
        · apply Classical.byContradiction
          intro hlt
          exact hne (String.le_antisymm (String.not_lt.1 hlt) (String.not_lt.1 hs))
        · exact hu v hv

/-- The set without members. -/
def empty : NameSet := ⟨[], List.Pairwise.nil⟩

instance : Inhabited NameSet := ⟨empty⟩

instance : Membership String NameSet := ⟨fun s x => x ∈ s.toList⟩

/-- Whether a name is a member. -/
def contains (s : NameSet) (x : String) : Bool := s.toList.contains x

/-- A set with one more member. -/
def insert (s : NameSet) (x : String) : NameSet :=
  ⟨place x s.toList, increasing_place x s.increasing⟩

/-- The set of the names in a list. -/
def ofList (xs : List String) : NameSet := xs.foldl insert empty

/-- The number of members. -/
def size (s : NameSet) : Nat := s.toList.length

@[simp] theorem not_mem_empty (x : String) : x ∉ empty := by
  intro h
  cases h

@[simp] theorem mem_insert (s : NameSet) (x y : String) : y ∈ s.insert x ↔ y = x ∨ y ∈ s :=
  mem_place x y s.toList

theorem contains_iff (s : NameSet) (x : String) : s.contains x = true ↔ x ∈ s := by
  simp [contains, Membership.mem]

theorem mem_foldl_insert (xs : List String) (s : NameSet) (y : String) :
    y ∈ xs.foldl insert s ↔ y ∈ s ∨ y ∈ xs := by
  induction xs generalizing s with
  | nil => simp
  | cons x xs ih =>
    rw [List.foldl_cons, ih, mem_insert, List.mem_cons]
    exact ⟨fun h => by rcases h with (h | h) | h <;> simp [h],
      fun h => by rcases h with h | h | h <;> simp [h]⟩

@[simp] theorem mem_ofList (xs : List String) (y : String) : y ∈ ofList xs ↔ y ∈ xs := by
  simp [ofList, mem_foldl_insert]

/-- Strictly increasing lists with the same members are equal. -/
theorem eq_of_increasing {xs ys : List String} (hx : xs.Pairwise (· < ·))
    (hy : ys.Pairwise (· < ·)) (h : ∀ z, z ∈ xs ↔ z ∈ ys) : xs = ys := by
  induction xs generalizing ys with
  | nil =>
    cases ys with
    | nil => rfl
    | cons y ys => exact absurd ((h y).2 List.mem_cons_self) (List.not_mem_nil)
  | cons x xs ih =>
    cases ys with
    | nil => exact absurd ((h x).1 List.mem_cons_self) (List.not_mem_nil)
    | cons y ys =>
      obtain ⟨hx1, hx2⟩ := List.pairwise_cons.1 hx
      obtain ⟨hy1, hy2⟩ := List.pairwise_cons.1 hy
      have hxy : x = y := by
        rcases List.mem_cons.1 ((h x).1 List.mem_cons_self) with hxy | hxm
        · exact hxy
        · rcases List.mem_cons.1 ((h y).2 List.mem_cons_self) with hyx | hym
          · exact hyx.symm
          · exact absurd (hx1 y hym) (String.lt_asymm (hy1 x hxm))
      subst hxy
      congr 1
      apply ih hx2 hy2
      intro z
      constructor
      · intro hz
        rcases List.mem_cons.1 ((h z).1 (List.mem_cons_of_mem _ hz)) with rfl | hz'
        · exact absurd (hx1 z hz) (String.lt_irrefl z)
        · exact hz'
      · intro hz
        rcases List.mem_cons.1 ((h z).2 (List.mem_cons_of_mem _ hz)) with rfl | hz'
        · exact absurd (hy1 z hz) (String.lt_irrefl z)
        · exact hz'

@[ext] theorem ext {s t : NameSet} (h : ∀ x, x ∈ s ↔ x ∈ t) : s = t := by
  obtain ⟨xs, hx⟩ := s
  obtain ⟨ys, hy⟩ := t
  congr 1
  exact eq_of_increasing hx hy h

end NameSet

end ClusterTutor
