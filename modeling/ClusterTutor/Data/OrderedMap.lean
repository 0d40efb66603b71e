/-!
# Maps that remember the order of insertion

Flags, fields and definitions are shown in the order in which they first appeared,
whatever was written to them later. `ClusterTutor.OrderedMap` is a list of entries
with distinct keys: writing to a new key appends an entry, and writing to a known one
replaces its value where it stands.

Everything about the map follows from the two views of it, what a key is bound to and
in which order the keys came:

| operation | binding of `k` | keys |
|---|---|---|
| `insert` | `get?_insert` | `keys_insert` |
| `erase` | `get?_erase` | `keys_erase` |
| `filterKeys` | `get?_filterKeys` | `keys_filterKeys` |
| `insertAll` of a map | `get?_insertAll` | `mem_keys_insertAll` |
| `ofList` | `get?_ofList_eq_some_iff` | `keys_ofList` |
-/

namespace ClusterTutor

/-- Entries in the order in which their keys first appeared. -/
structure OrderedMap (κ α : Type) where
  /-- The entries, oldest key first. -/
  toList : List (κ × α)
  /-- No key has two entries. -/
  nodup : (toList.map Prod.fst).Nodup
deriving DecidableEq

namespace OrderedMap

variable {κ α : Type}

/-! ### The entries in order -/

/-- The map without entries. -/
def empty : OrderedMap κ α := ⟨[], List.nodup_nil⟩

instance : Inhabited (OrderedMap κ α) := ⟨empty⟩

/-- The keys, oldest first. -/
def keys (m : OrderedMap κ α) : List κ := m.toList.map Prod.fst

/-- The values, in the order of their keys. -/
def values (m : OrderedMap κ α) : List α := m.toList.map Prod.snd

/-- The number of entries. -/
def size (m : OrderedMap κ α) : Nat := m.toList.length

/-- Whether there are no entries. -/
def isEmpty (m : OrderedMap κ α) : Bool := m.toList.isEmpty

/-- A map without the entries of which a test on the key fails. -/
def filterKeys (m : OrderedMap κ α) (p : κ → Bool) : OrderedMap κ α where
  toList := m.toList.filter fun e => p e.1
  nodup := m.nodup.sublist (List.filter_sublist.map _)

@[ext] theorem ext {m m' : OrderedMap κ α} (h : m.toList = m'.toList) : m = m' := by
  cases m
  cases m'
  cases h
  rfl

theorem nodup_keys (m : OrderedMap κ α) : m.keys.Nodup := m.nodup

@[simp] theorem keys_empty : (empty : OrderedMap κ α).keys = [] := rfl

theorem keys_filterKeys (m : OrderedMap κ α) (p : κ → Bool) :
    (m.filterKeys p).keys = m.keys.filter p := by
  simp [keys, filterKeys, List.filter_map, Function.comp_def]

/-! ### Lists of entries -/

variable [DecidableEq κ]

/-- The value of the first entry with a key. -/
def findEntry (k : κ) : List (κ × α) → Option α
  | [] => none
  | e :: es => if e.1 = k then some e.2 else findEntry k es

/-- Entries with the value of a key replaced, or with a new entry at the end. -/
def setEntry (k : κ) (v : α) : List (κ × α) → List (κ × α)
  | [] => [(k, v)]
  | e :: es => if e.1 = k then (k, v) :: es else e :: setEntry k v es

theorem map_fst_setEntry (k : κ) (v : α) (es : List (κ × α)) :
    (setEntry k v es).map Prod.fst =
      if k ∈ es.map Prod.fst then es.map Prod.fst else es.map Prod.fst ++ [k] := by
  induction es with
  | nil => simp [setEntry]
  | cons e es ih =>
    by_cases h : e.1 = k
    · simp [setEntry, h]
    · have hk : ¬k = e.1 := fun hke => h hke.symm
      simp only [setEntry, h, if_false, List.map_cons, ih, List.mem_cons, hk, false_or]
      split <;> simp

theorem findEntry_setEntry (k k' : κ) (v : α) (es : List (κ × α)) :
    findEntry k' (setEntry k v es) = if k = k' then some v else findEntry k' es := by
  induction es with
  | nil => simp [setEntry, findEntry]
  | cons e es ih =>
    by_cases h : e.1 = k
    · by_cases hk : k = k' <;> simp [setEntry, findEntry, h, hk]
    · by_cases hk : k = k'
      · subst hk
        simp only [setEntry, h, if_false, findEntry, ih, if_true]
      · simp only [setEntry, h, if_false, findEntry, ih, hk]

theorem findEntry_isSome (k : κ) (es : List (κ × α)) :
    (findEntry k es).isSome ↔ k ∈ es.map Prod.fst := by
  induction es with
  | nil => simp [findEntry]
  | cons e es ih =>
    by_cases h : e.1 = k
    · simp [findEntry, h]
    · have hk : ¬k = e.1 := fun hke => h hke.symm
      simp [findEntry, h, ih, hk]

/-! ### Operations -/

/-- The value of a key. -/
def get? (m : OrderedMap κ α) (k : κ) : Option α := findEntry k m.toList

/-- Whether a key has an entry. -/
def contains (m : OrderedMap κ α) (k : κ) : Bool := (m.get? k).isSome

/-- A map with the value of a key set. -/
def insert (m : OrderedMap κ α) (k : κ) (v : α) : OrderedMap κ α where
  toList := setEntry k v m.toList
  nodup := by
    rw [map_fst_setEntry]
    split
    · exact m.nodup
    · rename_i h
      rw [List.nodup_append]
      refine ⟨m.nodup, by simp, ?_⟩
      intro a ha b hb hab
      rw [List.mem_singleton] at hb
      exact h (hb ▸ hab ▸ ha)

/-- A map without a key. -/
def erase (m : OrderedMap κ α) (k : κ) : OrderedMap κ α :=
  m.filterKeys fun k' => decide (k' ≠ k)

/-- Entries written to a map one after the other. -/
def insertAll (m : OrderedMap κ α) (es : List (κ × α)) : OrderedMap κ α :=
  es.foldl (fun m e => m.insert e.1 e.2) m

/-- The map that holds, for each key, the last of its entries. -/
def ofList (es : List (κ × α)) : OrderedMap κ α :=
  empty.insertAll es

/-! ### The views -/

@[simp] theorem get?_empty (k : κ) : (empty : OrderedMap κ α).get? k = none := rfl

@[simp] theorem get?_insert (m : OrderedMap κ α) (k k' : κ) (v : α) :
    (m.insert k v).get? k' = if k = k' then some v else m.get? k' :=
  findEntry_setEntry k k' v m.toList

theorem keys_insert (m : OrderedMap κ α) (k : κ) (v : α) :
    (m.insert k v).keys = if k ∈ m.keys then m.keys else m.keys ++ [k] :=
  map_fst_setEntry k v m.toList

@[simp] theorem mem_keys_insert (m : OrderedMap κ α) (k k' : κ) (v : α) :
    k' ∈ (m.insert k v).keys ↔ k' = k ∨ k' ∈ m.keys := by
  rw [keys_insert]
  split
  · rename_i h
    constructor
    · exact Or.inr
    · rintro (rfl | h')
      · exact h
      · exact h'
  · simp [or_comm]

theorem contains_iff (m : OrderedMap κ α) (k : κ) : m.contains k = true ↔ k ∈ m.keys :=
  findEntry_isSome k m.toList

theorem get?_eq_none_iff (m : OrderedMap κ α) (k : κ) : m.get? k = none ↔ k ∉ m.keys := by
  rw [← contains_iff, contains, Bool.not_eq_true, Option.isSome_eq_false_iff,
    Option.isNone_iff_eq_none]

theorem get?_filterKeys (m : OrderedMap κ α) (p : κ → Bool) (k : κ) :
    (m.filterKeys p).get? k = if p k then m.get? k else none := by
  obtain ⟨es, h⟩ := m
  simp only [get?, filterKeys]
  clear h
  induction es with
  | nil => simp [findEntry]
  | cons e es ih =>
    by_cases hk : e.1 = k
    · subst hk
      cases hp : p e.1 <;> simp_all [findEntry]
    · cases hp : p e.1 <;> simp_all [findEntry]

theorem keys_erase (m : OrderedMap κ α) (k : κ) :
    (m.erase k).keys = m.keys.filter fun k' => decide (k' ≠ k) :=
  keys_filterKeys m _

theorem get?_erase (m : OrderedMap κ α) (k k' : κ) :
    (m.erase k).get? k' = if k' = k then none else m.get? k' := by
  rw [erase, get?_filterKeys]
  by_cases h : k' = k <;> simp [h]

theorem mem_toList_iff (m : OrderedMap κ α) (k : κ) (v : α) :
    (k, v) ∈ m.toList ↔ m.get? k = some v := by
  obtain ⟨es, h⟩ := m
  simp only [get?]
  induction es with
  | nil => simp [findEntry]
  | cons e es ih =>
    obtain ⟨hne, hnd⟩ := List.nodup_cons.1 h
    by_cases hk : e.1 = k
    · subst hk
      have hno : (e.1, v) ∉ es := fun hm => hne (List.mem_map.2 ⟨_, hm, rfl⟩)
      simp only [findEntry, if_true, List.mem_cons, hno, or_false, Option.some.injEq]
      exact ⟨fun he => he ▸ rfl, fun he => he ▸ rfl⟩
    · have hno : ¬(k, v) = e := fun he => hk (he ▸ rfl)
      simp only [findEntry, hk, if_false, List.mem_cons, hno, false_or]
      exact ih hnd

@[simp] theorem insertAll_nil (m : OrderedMap κ α) : m.insertAll [] = m := rfl

@[simp] theorem insertAll_cons (m : OrderedMap κ α) (e : κ × α) (es : List (κ × α)) :
    m.insertAll (e :: es) = (m.insert e.1 e.2).insertAll es := rfl

theorem mem_keys_insertAll (m : OrderedMap κ α) (es : List (κ × α)) (k : κ) :
    k ∈ (m.insertAll es).keys ↔ k ∈ es.map Prod.fst ∨ k ∈ m.keys := by
  induction es generalizing m with
  | nil => simp
  | cons e es ih =>
    rw [insertAll_cons, ih, mem_keys_insert, List.map_cons, List.mem_cons, or_assoc, or_left_comm]

/-- What a key is bound to was written to it, or it was bound to it before. -/
theorem mem_or_get?_of_get?_insertAll {m : OrderedMap κ α} {es : List (κ × α)} {k : κ} {v : α}
    (h : (m.insertAll es).get? k = some v) : (k, v) ∈ es ∨ m.get? k = some v := by
  induction es generalizing m with
  | nil => exact Or.inr h
  | cons e es ih =>
    rw [insertAll_cons] at h
    rcases ih h with hmem | hget
    · exact Or.inl (List.mem_cons_of_mem _ hmem)
    · rw [get?_insert] at hget
      split at hget
      · rename_i hk
        obtain rfl := Option.some.inj hget
        exact Or.inl (hk ▸ List.mem_cons_self)
      · exact Or.inr hget

theorem mem_of_get?_ofList {es : List (κ × α)} {k : κ} {v : α} (h : (ofList es).get? k = some v) :
    (k, v) ∈ es := by
  rcases mem_or_get?_of_get?_insertAll h with hmem | hget
  · exact hmem
  · simp at hget

/-- Entries with distinct keys, written to a map, bind their keys and no others. -/
theorem get?_insertAll_of_nodup (m : OrderedMap κ α) {es : List (κ × α)}
    (h : (es.map Prod.fst).Nodup) (k : κ) :
    (m.insertAll es).get? k = (findEntry k es).or (m.get? k) := by
  induction es generalizing m with
  | nil => simp [findEntry]
  | cons e es ih =>
    obtain ⟨hne, hnd⟩ := List.nodup_cons.1 h
    rw [insertAll_cons, ih _ hnd, get?_insert]
    by_cases hk : e.1 = k
    · have hno : findEntry k es = none := by
        rw [← Option.not_isSome_iff_eq_none, findEntry_isSome]
        exact hk ▸ hne
      simp [findEntry, hk, hno]
    · simp [findEntry, hk]

@[simp] theorem get?_insertAll (m n : OrderedMap κ α) (k : κ) :
    (m.insertAll n.toList).get? k = (n.get? k).or (m.get? k) :=
  get?_insertAll_of_nodup m n.nodup k

theorem insertAll_append (m : OrderedMap κ α) (es es' : List (κ × α)) :
    m.insertAll (es ++ es') = (m.insertAll es).insertAll es' :=
  List.foldl_append

/-- A key to which nothing is written keeps its value. -/
theorem get?_insertAll_of_not_mem (m : OrderedMap κ α) {es : List (κ × α)} {k : κ}
    (h : k ∉ es.map Prod.fst) : (m.insertAll es).get? k = m.get? k := by
  induction es generalizing m with
  | nil => rfl
  | cons e es ih =>
    rw [List.map_cons, List.mem_cons, not_or] at h
    obtain ⟨hne, hes⟩ := h
    rw [insertAll_cons, ih _ hes, get?_insert, if_neg (Ne.symm hne)]

/-- Keys that are all bound to one value. -/
theorem get?_insertAll_const {β : Type} (m : OrderedMap κ α) (v : α) (key : β → κ) (xs : List β)
    (k : κ) : (m.insertAll (xs.map fun x => (key x, v))).get? k =
      if ∃ x ∈ xs, key x = k then some v else m.get? k := by
  induction xs generalizing m with
  | nil => simp
  | cons x xs ih =>
    rw [List.map_cons, insertAll_cons, ih]
    by_cases hlater : ∃ x' ∈ xs, key x' = k
    · simp [hlater]
    · by_cases h : key x = k <;> simp [hlater, h]

/-- A key with entries has a last one. -/
theorem exists_last_entry {es : List (κ × α)} {k : κ} (h : k ∈ es.map Prod.fst) :
    ∃ earlier v later, es = earlier ++ (k, v) :: later ∧ k ∉ later.map Prod.fst := by
  induction es with
  | nil => simp at h
  | cons e es ih =>
    by_cases hes : k ∈ es.map Prod.fst
    · obtain ⟨earlier, v, later, rfl, hlater⟩ := ih hes
      exact ⟨e :: earlier, v, later, rfl, hlater⟩
    · obtain rfl : k = e.1 := by simpa [hes] using h
      exact ⟨[], e.2, es, rfl, hes⟩

theorem get?_ofList_of_last (earlier : List (κ × α)) (v : α) {later : List (κ × α)} {k : κ}
    (h : k ∉ later.map Prod.fst) : (ofList (earlier ++ (k, v) :: later)).get? k = some v := by
  rw [ofList, insertAll_append, insertAll_cons, get?_insertAll_of_not_mem _ h, get?_insert,
    if_pos rfl]

/-- **Of several entries with a key the last one counts.** -/
theorem get?_ofList_eq_some_iff {es : List (κ × α)} {k : κ} {v : α} :
    (ofList es).get? k = some v ↔
      ∃ earlier later, es = earlier ++ (k, v) :: later ∧ k ∉ later.map Prod.fst := by
  constructor
  · intro h
    have hk : k ∈ es.map Prod.fst := List.mem_map.2 ⟨_, mem_of_get?_ofList h, rfl⟩
    obtain ⟨earlier, v', later, rfl, hlater⟩ := exists_last_entry hk
    rw [get?_ofList_of_last earlier v' hlater] at h
    obtain rfl := Option.some.inj h
    exact ⟨earlier, later, rfl, hlater⟩
  · rintro ⟨earlier, later, rfl, hlater⟩
    exact get?_ofList_of_last earlier v hlater

/-- Writing to a map adds the keys that are new, in the order in which they first appear. -/
theorem keys_insertAll [BEq κ] [LawfulBEq κ] (m : OrderedMap κ α) (es : List (κ × α)) :
    (m.insertAll es).keys = m.keys ++ ((es.map Prod.fst).removeAll m.keys).eraseDups := by
  induction es generalizing m with
  | nil => simp [List.removeAll]
  | cons e es ih =>
    rw [insertAll_cons, ih, keys_insert]
    split
    · rename_i hk
      simp [List.removeAll, hk]
    · rename_i hk
      have hrest : (es.map Prod.fst).removeAll (m.keys ++ [e.1]) =
          ((es.map Prod.fst).removeAll m.keys).filter fun k => !(k == e.1) := by
        simp only [List.removeAll, List.filter_filter]
        refine List.filter_congr fun k _ => ?_
        by_cases hke : k = e.1 <;> simp [hke]
      have hfirst : ((e :: es).map Prod.fst).removeAll m.keys =
          e.1 :: (es.map Prod.fst).removeAll m.keys := by
        simp [List.removeAll, hk]
      rw [hrest, hfirst, List.eraseDups_cons, List.append_assoc, List.singleton_append]

/-- **The keys come in the order in which they first appear.** -/
theorem keys_ofList [BEq κ] [LawfulBEq κ] (es : List (κ × α)) :
    (ofList es).keys = (es.map Prod.fst).eraseDups := by
  have hall : (es.map Prod.fst).removeAll [] = es.map Prod.fst :=
    List.filter_eq_self.2 fun _ _ => rfl
  rw [ofList, keys_insertAll, keys_empty, hall, List.nil_append]

end OrderedMap

end ClusterTutor
