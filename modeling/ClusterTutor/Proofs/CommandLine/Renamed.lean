import ClusterTutor.Proofs.CommandLine.FlagWords

/-!
# One flag under another name

An option may be typed under several names. A line in which one flag is typed under another name,
with the same value, is read as it was but for that name
(`ClusterTutor.ParsedLine.renames_ofParts`): its words are the same, and of its flags one is
written to the map under the other name.

The two maps need not have the same size. The old name may have been typed elsewhere, so that it is
still bound, and the new one may have been typed before. What remains true is said in terms of the
two names alone (`ClusterTutor.OrderedMap.Renames`): every other key is bound as it was, and a
search among the keys that passes both names over finds the same.
-/

namespace ClusterTutor

namespace OrderedMap

variable {κ α β : Type} [DecidableEq κ] {a b k : κ} {m m' : OrderedMap κ α}

/-- **One entry under another key**: what is written to two maps, one entry after the other, differs
in the key of one entry alone. -/
def Renames (a b : κ) (m m' : OrderedMap κ α) : Prop :=
  ∃ earlier v later, m = ofList (earlier ++ (a, v) :: later) ∧
    m' = ofList (earlier ++ (b, v) :: later)

theorem get?_insertAll_congr {m m' : OrderedMap κ α} (h : m.get? k = m'.get? k)
    (es : List (κ × α)) : (m.insertAll es).get? k = (m'.insertAll es).get? k := by
  induction es generalizing m m' with
  | nil => exact h
  | cons e es ih =>
    rw [insertAll_cons, insertAll_cons]
    exact ih (by rw [get?_insert, get?_insert, h])

/-- A search among the keys meets a new one last, and one that is bound already where it stands. -/
theorem findSome?_keys_insert (m : OrderedMap κ α) (k : κ) (v : α) (f : κ → Option β) :
    (m.insert k v).keys.findSome? f = (m.keys.findSome? f).or (f k) := by
  rw [keys_insert]
  split
  · rename_i hk
    cases hfound : m.keys.findSome? f with
    | some x => rfl
    -- The key is among those that the search has passed over.
    | none => exact (List.findSome?_eq_none_iff.1 hfound k hk).symm
  · rw [List.findSome?_append, List.findSome?_singleton]

/-- **A search among the keys** goes through the entries as they are written. -/
theorem findSome?_keys_insertAll (m : OrderedMap κ α) (es : List (κ × α)) (f : κ → Option β) :
    (m.insertAll es).keys.findSome? f = (m.keys.findSome? f).or (es.findSome? fun e => f e.1) := by
  induction es generalizing m with
  | nil => rw [insertAll_nil, List.findSome?_nil, Option.or_none]
  | cons e es ih =>
    rw [insertAll_cons, ih, findSome?_keys_insert, List.findSome?_cons, Option.or_assoc]
    cases f e.1 <;> rfl

namespace Renames

theorem symm (h : Renames a b m m') : Renames b a m' m := by
  obtain ⟨earlier, v, later, hm, hm'⟩ := h
  exact ⟨earlier, v, later, hm', hm⟩

/-- Under the same name nothing changes. -/
theorem eq (h : Renames a a m m') : m = m' := by
  obtain ⟨_, _, _, rfl, rfl⟩ := h
  rfl

theorem mem_keys_left (h : Renames a b m m') : a ∈ m.keys := by
  obtain ⟨earlier, v, later, rfl, -⟩ := h
  rw [ofList, mem_keys_insertAll]
  simp

theorem mem_keys_right (h : Renames a b m m') : b ∈ m'.keys := h.symm.mem_keys_left

/-- The other keys are kept. -/
theorem mem_keys_of_ne (h : Renames a b m m') (hk : k ∈ m.keys) (hne : k ≠ a) : k ∈ m'.keys := by
  obtain ⟨earlier, v, later, rfl, rfl⟩ := h
  rw [ofList, mem_keys_insertAll] at hk ⊢
  have hother : k ∈ earlier.map Prod.fst ∨ k ∈ later.map Prod.fst := by simpa [hne] using hk
  rcases hother with hmem | hmem <;> simp [hmem]

/-- **The other keys are bound as they were.** -/
theorem get?_eq (h : Renames a b m m') (ha : k ≠ a) (hb : k ≠ b) : m.get? k = m'.get? k := by
  obtain ⟨earlier, v, later, rfl, rfl⟩ := h
  rw [ofList, ofList, insertAll_append, insertAll_append, insertAll_cons, insertAll_cons]
  refine get?_insertAll_congr ?_ later
  rw [get?_insert, get?_insert, if_neg (Ne.symm ha), if_neg (Ne.symm hb)]

/-- **A search that passes both names over** finds the same. -/
theorem findSome?_keys (h : Renames a b m m') {f : κ → Option β} (ha : f a = none)
    (hb : f b = none) : m.keys.findSome? f = m'.keys.findSome? f := by
  obtain ⟨earlier, v, later, rfl, rfl⟩ := h
  rw [ofList, ofList, findSome?_keys_insertAll, findSome?_keys_insertAll]
  simp only [List.findSome?_append, List.findSome?_cons, ha, hb]

end Renames

end OrderedMap

/-- **A line with one flag under another name**: it is the same line but for its flags, of which one
has the other name. -/
structure ParsedLine.Renames (a b : String) (p p' : ParsedLine) : Prop where
  /-- The command is the same. -/
  command : p.command = p'.command
  /-- The subcommands are the same. -/
  subcommands : p.subcommands = p'.subcommands
  /-- The other words are the same. -/
  positionals : p.positionals = p'.positionals
  /-- One of the flags has the other name. -/
  flags : OrderedMap.Renames a b p.flags p'.flags

namespace ParsedLine

open CommandLine

variable {before after : List String} {w w' : String}

/-- **A flag that is typed in another way** changes no more of a line than the name of one flag, if
it is read alike in front of what follows. -/
theorem renames_ofParts {schema : Option FlagSchema} (hopen : "--" ∉ before)
    (hflag : isFlag w = true) (hne : w ≠ "--") (hflag' : isFlag w' = true) (hne' : w' ≠ "--")
    (hread : readFlag schema w' after = readFlag schema w after) (command : String) :
    Renames (typedName w) (typedName w')
      (ofParts schema.isSome command (partsOf schema (before ++ w :: after)))
      (ofParts schema.isSome command (partsOf schema (before ++ w' :: after))) := by
  obtain ⟨part, hparts, hpart, hword, hends⟩ := partsOf_flagWord hflag hne hopen schema after
  obtain ⟨part', hparts', hpart', hword', hends'⟩ :=
    partsOf_flagWord hflag' hne' hopen schema after
  rw [hread] at hparts' hpart'
  have hviews : (partsOf schema (before ++ w :: after)).map
        (fun p => (p.word?, p.endsSubcommands schema.isSome)) =
      (partsOf schema (before ++ w' :: after)).map
        fun p => (p.word?, p.endsSubcommands schema.isSome) := by
    simp [hparts, hparts', hword, hword', hends, hends']
  obtain ⟨hsubcommands, hpositionals⟩ := words_ofParts_congr hviews command
  refine ⟨rfl, hsubcommands, hpositionals, ?_⟩
  -- Both lines write the flags in front, one flag with the same value, and the flags behind it.
  refine ⟨(partsOf schema before).filterMap Part.flag?, (readFlag schema w after).1,
    (readFlag schema w after).2.filterMap Part.flag?, ?_, ?_⟩
  · simp [ofParts, hparts, hpart]
  · simp [ofParts, hparts', hpart']

end ParsedLine

end ClusterTutor
