import ClusterTutor.Proofs.CommandLine.AttachedValues

/-!
# Words with the form of a flag

A word that has the form of a flag is read as one wherever the flags have not ended, whatever
stands around it (`ClusterTutor.CommandLine.partsOf_flagWord`). What it binds depends on three
things only: its name, the value in the same word, and whether it wants the next word. So a flag
that is typed in another way, with these three alike, leaves the rest of the line as it is.
-/

namespace ClusterTutor

namespace CommandLine

variable {schema : Option FlagSchema} {before after ws : List String} {w : String}

/-- A line is cut in two in front of a flag, if the flags have not ended. -/
theorem partsOf_append (hopen : "--" ∉ before) (hflag : ∀ next ∈ ws.head?, isFlag next = true) :
    partsOf schema (before ++ ws) = partsOf schema before ++ partsOf schema ws := by
  obtain ⟨front, hfront⟩ := exists_reads schema before
  obtain ⟨back, hback⟩ := exists_reads schema ws
  rw [← (hfront.append hopen hback hflag).map_part, ← hfront.map_part, ← hback.map_part,
    List.map_append]

/-- The name under which a word is read that has the form of a flag. -/
def typedName (w : String) : String := (inlineValue? w).elim (flagName w) Prod.fst

/-- **What a flag binds in front of some words**, with the parts of the words that it leaves: the
value in the same word, or the next word if it takes one. -/
def readFlag (schema : Option FlagSchema) (w : String) (after : List String) :
    FlagValue × List Part :=
  match inlineValue? w with
  | some (_, value) => (.given value, partsOf schema after)
  | none =>
    match after with
    | [] => (.present, [])
    | next :: rest =>
      if takesNext schema w next then (.given next, partsOf schema rest)
      else (.present, partsOf schema (next :: rest))

/-- **A word with the form of a flag is read as one** in the middle of a line. -/
theorem partsOf_flagWord (hflag : isFlag w = true) (hne : w ≠ "--") (hopen : "--" ∉ before)
    (schema : Option FlagSchema) (after : List String) :
    ∃ part, partsOf schema (before ++ w :: after) =
        partsOf schema before ++ part :: (readFlag schema w after).2 ∧
      part.flag? = some (typedName w, (readFlag schema w after).1) ∧ part.word? = none ∧
      ∀ hasSchema, part.endsSubcommands hasSchema = !hasSchema := by
  rw [partsOf_append hopen (by simpa using hflag), partsOf.eq_def schema (w :: after)]
  simp only [hne, hflag, if_false, Bool.not_true, Bool.false_eq_true, typedName, readFlag]
  cases inlineValue? w with
  | some inline =>
    obtain ⟨name, value⟩ := inline
    exact ⟨.inline name value, rfl, rfl, rfl, fun _ => rfl⟩
  | none =>
    cases after with
    | nil => exact ⟨.bare (flagName w), rfl, rfl, rfl, fun _ => rfl⟩
    | cons next rest =>
      cases htakes : takesNext schema w next with
      | true =>
        exact ⟨.separate (flagName w) next, by simp [htakes], by simp [htakes, Part.flag?], rfl,
          fun _ => rfl⟩
      | false =>
        exact ⟨.bare (flagName w), by simp [htakes], by simp [htakes, Part.flag?], rfl,
          fun _ => rfl⟩

/-- **Two flags are read alike** if they have the same value in the same word, or if neither has
one and the one wants the next word if the other does. -/
theorem readFlag_congr {w' : String}
    (hvalue : (inlineValue? w').map Prod.snd = (inlineValue? w).map Prod.snd)
    (hwants : inlineValue? w = none → wantsValue schema w' = wantsValue schema w)
    (after : List String) : readFlag schema w' after = readFlag schema w after := by
  unfold readFlag
  cases hw : inlineValue? w with
  | some inline =>
    cases hw' : inlineValue? w' with
    | some inline' =>
      have hsame : inline'.2 = inline.2 := by simpa [hw, hw'] using hvalue
      simp [hsame]
    | none => simp [hw, hw'] at hvalue
  | none =>
    have htakes : ∀ next, takesNext schema w' next = takesNext schema w next := by
      intro next
      rw [takesNext_eq, takesNext_eq, hwants hw]
    cases hw' : inlineValue? w' with
    | some inline' => simp [hw, hw'] at hvalue
    | none => simp only [htakes]

/-- A word without the form of a flag is read as no flag. -/
theorem flag?_of_isFlag_eq_false (h : isFlag w = false ∨ w = "--") (schema : Option FlagSchema) :
    ∀ part ∈ (partsOf schema [w]).head?, part.flag? = none := by
  rcases h with h | rfl
  · simp [partsOf_word h, Part.flag?]
  · simp [partsOf, Part.flag?]

end CommandLine

end ClusterTutor
