import ClusterTutor.Data.OrderedMap

/-!
# Tables of profiles

What is remembered of learners is kept in tables. A row belongs to a profile and is
found under it by a key; the rows of one profile are a map of their own, and nothing
that is done to the rows of one profile is seen among those of another.

The store holds numbers of 64 bits. The number of a profile is one of them
(`ClusterTutor.ProfileNumber`), and whoever is asked to read or write rows under another
number refuses.
-/

namespace ClusterTutor

/-- Whether the store can hold a number. -/
def fitsStore (n : Int) : Bool :=
  decide (-9223372036854775808 ≤ n) && decide (n ≤ 9223372036854775807)

/-- The number of a profile, which the store can hold. -/
@[ext] structure ProfileNumber where
  /-- The number. -/
  toInt : Int
  /-- The store can hold it. -/
  fits : fitsStore toInt = true
deriving DecidableEq, Repr

namespace ProfileNumber

instance : Coe ProfileNumber Int := ⟨toInt⟩

/-- A literal stands for the number that is left of it in 63 bits. -/
instance (n : Nat) : OfNat ProfileNumber n where
  ofNat.toInt := (n % 9223372036854775808 : Nat)
  ofNat.fits := by
    rw [fitsStore, Bool.and_eq_true, decide_eq_true_iff, decide_eq_true_iff]
    omega

/-- The number of a profile that a whole number is. -/
def ofInt? (n : Int) : Option ProfileNumber :=
  if h : fitsStore n = true then some ⟨n, h⟩ else none

theorem ofInt?_eq_some_iff {n : Int} {p : ProfileNumber} : ofInt? n = some p ↔ p.toInt = n := by
  unfold ofInt?
  split
  · rw [Option.some.injEq, ProfileNumber.ext_iff, eq_comm]
  · rename_i hfits
    refine iff_of_false (by simp) ?_
    rintro rfl
    exact hfits p.fits

@[simp] theorem ofInt?_toInt (p : ProfileNumber) : ofInt? p.toInt = some p :=
  ofInt?_eq_some_iff.2 rfl

@[simp] theorem toInt_inj {p q : ProfileNumber} : p.toInt = q.toInt ↔ p = q :=
  ProfileNumber.ext_iff.symm

/-- A number that the store cannot hold is that of no profile. -/
theorem ofInt?_eq_none_iff {n : Int} : ofInt? n = none ↔ ∀ p : ProfileNumber, n ≠ p.toInt := by
  rw [Option.eq_none_iff_forall_ne_some]
  exact forall_congr' fun p => not_congr (ofInt?_eq_some_iff.trans eq_comm)

end ProfileNumber

/-- Rows by profile and key. -/
abbrev Table (κ α : Type) := OrderedMap (ProfileNumber × κ) α

namespace Table

variable {κ α : Type}

/-- The rows of a profile among some entries. -/
def rowsOf (profile : ProfileNumber) (es : List ((ProfileNumber × κ) × α)) : List (κ × α) :=
  (es.filter fun e => decide (e.1.1 = profile)).map fun e => (e.1.2, e.2)

theorem mem_map_fst_rowsOf {profile : ProfileNumber}
    {es : List ((ProfileNumber × κ) × α)} {k : κ} :
    k ∈ (rowsOf profile es).map Prod.fst ↔ (profile, k) ∈ es.map Prod.fst := by
  simp only [rowsOf, List.mem_map, List.mem_filter]
  constructor
  · rintro ⟨e, ⟨e', ⟨hmem, hp⟩, rfl⟩, rfl⟩
    refine ⟨e', hmem, ?_⟩
    have hp' := of_decide_eq_true hp
    rw [← hp']
  · rintro ⟨e, hmem, he⟩
    refine ⟨(e.1.2, e.2), ⟨e, ⟨hmem, ?_⟩, rfl⟩, ?_⟩
    · simp [he]
    · simp [he]

theorem nodup_rowsOf (profile : ProfileNumber) {es : List ((ProfileNumber × κ) × α)}
    (h : (es.map Prod.fst).Nodup) : ((rowsOf profile es).map Prod.fst).Nodup := by
  induction es with
  | nil => simp [rowsOf]
  | cons e es ih =>
    obtain ⟨hne, hnd⟩ := List.nodup_cons.1 h
    by_cases hp : e.1.1 = profile
    · have hcons : rowsOf profile (e :: es) = (e.1.2, e.2) :: rowsOf profile es := by
        simp [rowsOf, hp]
      rw [hcons, List.map_cons, List.nodup_cons]
      refine ⟨fun hm => hne ?_, ih hnd⟩
      rw [mem_map_fst_rowsOf, ← hp] at hm
      exact hm
    · have hskip : rowsOf profile (e :: es) = rowsOf profile es := by
        simp [rowsOf, hp]
      rw [hskip]
      exact ih hnd

/-- The rows of a profile. -/
def ofProfile (t : Table κ α) (profile : ProfileNumber) : OrderedMap κ α where
  toList := rowsOf profile t.toList
  nodup := nodup_rowsOf profile t.nodup

/-- A table without the rows of a profile. -/
def deleteProfile (t : Table κ α) (profile : ProfileNumber) : Table κ α :=
  t.filterKeys fun k => decide (k.1 ≠ profile)

variable [DecidableEq κ]

@[simp] theorem get?_ofProfile (t : Table κ α) (profile : ProfileNumber) (k : κ) :
    (ofProfile t profile).get? k = t.get? (profile, k) := by
  obtain ⟨es, h⟩ := t
  simp only [ofProfile, OrderedMap.get?]
  clear h
  induction es with
  | nil => rfl
  | cons e es ih =>
    by_cases hp : e.1.1 = profile
    · have hcons : rowsOf profile (e :: es) = (e.1.2, e.2) :: rowsOf profile es := by
        simp [rowsOf, hp]
      rw [hcons]
      have heq : (e.1.2 = k) ↔ (e.1 = (profile, k)) := by
        rw [Prod.ext_iff]
        simp [hp]
      simp only [OrderedMap.findEntry, ih, heq]
    · have hskip : rowsOf profile (e :: es) = rowsOf profile es := by
        simp [rowsOf, hp]
      have hne : e.1 ≠ (profile, k) := fun he => hp (by rw [he])
      rw [hskip, ih]
      simp [OrderedMap.findEntry, hne]

theorem get?_deleteProfile (t : Table κ α) (profile p : ProfileNumber) (k : κ) :
    (deleteProfile t profile).get? (p, k) = if p = profile then none else t.get? (p, k) := by
  rw [deleteProfile, OrderedMap.get?_filterKeys]
  by_cases h : p = profile <;> simp [h]

end Table

end ClusterTutor
