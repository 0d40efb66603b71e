import ClusterTutor.CommandLine.Basic
import ClusterTutor.Proofs.Definition.Token

/-!
# The flags of a line

A line binds its flags by their names, as they are typed but for the dashes. The engine
binds them by their tokens, so a flag that is typed with an equals sign at its end is
bound to the token without it. This module compares the two. Names have no dashes at
their front (`ClusterTutor.ParsedLine.undashed_of_mem_flags`), hence a name is a token
unless it ends with an equals sign, and where no name does, both ways bind the same
(`ClusterTutor.ParsedLine.get?_flagTokens`).
-/

namespace ClusterTutor

namespace CommandLine

theorem undashed_flagName (w : String) : Undashed (flagName w) := by
  simpa [Undashed, flagName] using head?_dropDashes_ne w

/-- What stands before an equals sign has no dash at its front if the whole has none. -/
theorem undashed_of_inlineValue? {w name value : String} (h : inlineValue? w = some (name, value)) :
    Undashed name := by
  unfold inlineValue? at h
  split at h
  · dsimp only at h
    split at h
    · simp only [Option.some.injEq, Prod.mk.injEq] at h
      obtain ⟨rfl, -⟩ := h
      have hwhole := head?_dropDashes_ne w
      unfold Undashed
      cases hbody : dropDashes w with
      | nil => simp
      | cons c cs =>
        rw [hbody] at hwhole
        rw [String.toList_ofList, List.takeWhile_cons]
        split
        · exact hwhole
        · simp
    · simp at h
  · simp at h

/-- The names of flags have no dashes at their front. The induction follows the reader of
parts, of which each step adds one part. -/
theorem undashed_of_mem_partsOf (schema : Option FlagSchema) (ws : List String)
    {f : String × FlagValue} (hf : f ∈ (partsOf schema ws).filterMap Part.flag?) : Undashed f.1 := by
  induction ws using partsOf.induct schema with
  | case1 => simp [partsOf] at hf
  | case2 ws =>
    have hwords : (ws.map Part.word).filterMap Part.flag? = [] := by
      simp [List.filterMap_eq_nil_iff, Part.flag?]
    rw [partsOf.eq_def] at hf
    simp only [if_true, List.filterMap_cons, Part.flag?] at hf
    simp [hwords] at hf
  | case3 w ws hdashes hflag ih =>
    rw [partsOf.eq_def] at hf
    simp only [if_neg hdashes, if_pos hflag] at hf
    exact ih hf
  | case4 w ws hdashes hflag name value hinline ih =>
    rw [partsOf.eq_def] at hf
    simp only [if_neg hdashes, if_neg hflag, hinline] at hf
    rcases List.mem_cons.1 hf with rfl | hf
    · exact undashed_of_inlineValue? hinline
    · exact ih hf
  | case5 w hdashes hflag hinline =>
    rw [partsOf.eq_def] at hf
    simp only [if_neg hdashes, if_neg hflag, hinline] at hf
    obtain rfl := List.mem_singleton.1 hf
    exact undashed_flagName w
  | case6 w hdashes hflag hinline next ws htakes ih =>
    rw [partsOf.eq_def] at hf
    simp only [if_neg hdashes, if_neg hflag, hinline, htakes, if_true] at hf
    rcases List.mem_cons.1 hf with rfl | hf
    · exact undashed_flagName w
    · exact ih hf
  | case7 w hdashes hflag hinline next ws htakes ih =>
    rw [partsOf.eq_def] at hf
    simp only [if_neg hdashes, if_neg hflag, hinline, htakes] at hf
    rcases List.mem_cons.1 hf with rfl | hf
    · exact undashed_flagName w
    · exact ih hf

end CommandLine

namespace ParsedLine

open CommandLine

/-- **The name of a flag has no dash at its front.** -/
theorem undashed_of_mem_flags {schema : Option FlagSchema} {line : String} {k : String}
    (hk : k ∈ (ofLine schema line).flags.keys) : Undashed k := by
  unfold ofLine at hk
  cases hws : (words? (Text.trim line)).getD [] with
  | nil => simp [hws, ofWords] at hk
  | cons w ws =>
    simp only [hws, ofWords, ofParts, OrderedMap.ofList, OrderedMap.mem_keys_insertAll,
      OrderedMap.keys_empty, List.not_mem_nil, or_false] at hk
    obtain ⟨f, hf, rfl⟩ := List.mem_map.1 hk
    exact undashed_of_mem_partsOf schema ws hf

/-- The flags of a line by token; of two names with one token the later one counts. -/
def flagTokens (p : ParsedLine) : OrderedMap String FlagValue :=
  .ofList (p.flags.toList.map fun f => (tokenOf f.1, f.2))

/-- The tokens are the tokens of the names. -/
theorem mem_keys_flagTokens (p : ParsedLine) (t : String) :
    t ∈ p.flagTokens.keys ↔ ∃ k ∈ p.flags.keys, tokenOf k = t := by
  rw [flagTokens, OrderedMap.ofList, OrderedMap.mem_keys_insertAll]
  simp [OrderedMap.keys, OrderedMap.empty]

/-- **Names that are tokens** are bound as they are. -/
theorem get?_flagTokens {p : ParsedLine} (h : ∀ k ∈ p.flags.keys, tokenOf k = k) (k : String) :
    p.flagTokens.get? k = p.flags.get? k := by
  have hsame : (p.flags.toList.map fun f => (tokenOf f.1, f.2)) = p.flags.toList := by
    conv => rhs; rw [← List.map_id p.flags.toList]
    refine List.map_congr_left fun f hf => ?_
    have hkey : f.1 ∈ p.flags.keys := List.mem_map.2 ⟨f, hf, rfl⟩
    simp [h f.1 hkey]
  rw [flagTokens, hsame, OrderedMap.ofList, OrderedMap.get?_insertAll]
  simp

/-- A line of which no flag ends with an equals sign has tokens for names. -/
theorem tokenOf_of_mem_flags {schema : Option FlagSchema} {line : String}
    (h : ∀ k ∈ (ofLine schema line).flags.keys, ¬EndsWithEquals k) :
    ∀ k ∈ (ofLine schema line).flags.keys, tokenOf k = k :=
  fun k hk => (tokenOf_eq_self_iff (undashed_of_mem_flags hk)).2 (h k hk)

end ParsedLine

end ClusterTutor
