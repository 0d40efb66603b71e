import ClusterTutor.Definition.Reader
import ClusterTutor.Proofs.Data.Except

/-!
# What a reading of a definition guarantees

A definition that was read has passed every check of the reader. This module turns a
successful reading round into the facts that it rests on:
`ClusterTutor.Definition.exists_fields_of_ofValue` lists the parts of a record with what
was read from them.

What the engine needs of this is about effects. Their lists of flags hold tokens
(`ClusterTutor.Effect.exists_tokenOf_of_ofValue`): a listed flag has no dash at its
front, but it may still end with an equals sign.
-/

namespace ClusterTutor

/-! ### Effects -/

/-- **An effect that was read** comes from an object with a domain, and its flags, if it lists
any, are tokens. -/
theorem Effect.exists_fields_of_ofValue {v : Value} {e : Effect} (h : Effect.ofValue v = .ok e) :
    ∃ fields, Value.nameField fields "state_domain" = .ok e.domain ∧
      (e.flags = none ∨ ∃ texts : List String, e.flags = some (texts.map tokenOf)) := by
  cases v with
  | object fields =>
    refine ⟨fields, ?_⟩
    simp only [Effect.ofValue] at h
    split at h
    · simp only [bind_eq_ok, pure, Except.pure, Except.ok.injEq] at h
      obtain ⟨_, rfl, domain, hdomain, _, -, _, -, _, -, rfl⟩ := h
      exact ⟨hdomain, .inl rfl⟩
    · simp only [bind_eq_ok, pure, Except.pure, Except.ok.injEq] at h
      obtain ⟨_, rfl, domain, hdomain, _, -, _, -, _, -, rfl⟩ := h
      exact ⟨hdomain, .inl rfl⟩
    · simp only [bind_eq_ok, pure, Except.pure, Except.ok.injEq] at h
      obtain ⟨_, -, texts, -, _, rfl, domain, hdomain, _, -, _, -, _, -, rfl⟩ := h
      exact ⟨hdomain, .inr ⟨texts, rfl⟩⟩
  | _ => simp [Effect.ofValue] at h

/-- **A listed flag is a token.** -/
theorem Effect.exists_tokenOf_of_ofValue {v : Value} {e : Effect} (h : Effect.ofValue v = .ok e)
    {needed : List String} (hneeded : e.flags = some needed) {t : String} (ht : t ∈ needed) :
    ∃ s, t = tokenOf s := by
  obtain ⟨-, -, hnone | ⟨texts, hsome⟩⟩ := exists_fields_of_ofValue h
  · rw [hnone] at hneeded
    cases hneeded
  · obtain rfl : texts.map tokenOf = needed := Option.some.inj (hsome.symm.trans hneeded)
    obtain ⟨s, -, rfl⟩ := List.mem_map.1 ht
    exact ⟨s, rfl⟩

/-- The effects of a command were read each on its own. -/
theorem Interactions.exists_ofValue_of_mem {o : Option Value} {n : Interactions}
    (h : Interactions.ofValue? o = .ok (some n)) {e : Effect} (he : e ∈ n.reads ∨ e ∈ n.writes) :
    ∃ v, Effect.ofValue v = .ok e := by
  unfold Interactions.ofValue? at h
  split at h
  · simp at h
  · simp at h
  · obtain ⟨rs, -, h⟩ := bind_eq_ok.1 h
    obtain ⟨reads, hreads, h⟩ := bind_eq_ok.1 h
    obtain ⟨ws, -, h⟩ := bind_eq_ok.1 h
    obtain ⟨writes, hwrites, h⟩ := bind_eq_ok.1 h
    simp only [pure, Except.pure, Except.ok.injEq, Option.some.injEq] at h
    subst h
    rcases he with he | he
    · obtain ⟨v, -, hv⟩ := exists_of_mem_mapM hreads he
      exact ⟨v, hv⟩
    · obtain ⟨v, -, hv⟩ := exists_of_mem_mapM hwrites he
      exact ⟨v, hv⟩
  · simp at h

/-! ### Definitions -/

namespace Definition

variable {v : Value} {d : Definition}

/-- **A definition that was read comes from a record with all its parts in order.** -/
theorem exists_fields_of_ofValue (h : ofValue v = .ok d) :
    ∃ fields, v = .object fields ∧
      Value.nameField fields "command" = .ok d.command ∧
      categories.contains d.category = true ∧
      (∃ vs, Value.listField fields "global_options" = .ok vs ∧
        vs.mapM CommandOption.ofValue = .ok d.options) ∧
      repeatedToken? d.options = none ∧
      (∃ vs, Value.listField fields "subcommands" = .ok vs ∧
        vs.mapM Subcommand.ofValue = .ok d.subcommands) ∧
      Text.allDistinct (d.subcommands.map Subcommand.name) = true ∧
      Interactions.ofValue? (fields.lookup "state_interactions") = .ok d.interactions := by
  cases v with
  | object fields =>
    simp only [ofValue, bind_eq_ok] at h
    obtain ⟨command, hcommand, category, -, h⟩ := h
    by_cases hcategory : categories.contains category = true
    · simp only [hcategory, if_true, bind_eq_ok] at h
      obtain ⟨os, hos, options, hoptions, h⟩ := h
      cases htoken : repeatedToken? options with
      | some token => simp only [htoken, throw_bind_ne_ok] at h
      | none =>
        simp only [htoken, bind_eq_ok] at h
        obtain ⟨ss, hss, subcommands, hsubcommands, h⟩ := h
        by_cases hdistinct : Text.allDistinct (subcommands.map Subcommand.name) = true
        · -- texts, exit codes, usage and errors are read, but nothing is asked of them here
          simp only [hdistinct, if_true, bind_eq_ok] at h
          obtain ⟨_, -, _, -, _, -, _, -, _, -, _, -, _, -, _, -, interactions, hinteractions, _, -,
            h⟩ := h
          simp only [pure, Except.pure, Except.ok.injEq] at h
          subst h
          exact ⟨fields, rfl, hcommand, hcategory, ⟨os, hos, hoptions⟩, htoken,
            ⟨ss, hss, hsubcommands⟩, hdistinct, hinteractions⟩
        · simp [hdistinct, throw_bind_ne_ok] at h
    · simp only [hcategory, Bool.false_eq_true, if_false, throw_bind_ne_ok] at h
  | _ => simp [ofValue] at h

/-- The effects of a definition that was read were read each on its own. -/
theorem exists_ofValue_of_mem_effects (h : ofValue v = .ok d) {e : Effect}
    (he : e ∈ d.reads ++ d.writes) : ∃ w, Effect.ofValue w = .ok e := by
  obtain ⟨fields, -, -, -, -, -, -, -, hinteractions⟩ := exists_fields_of_ofValue h
  cases hn : d.interactions with
  | none => simp [reads, writes, hn] at he
  | some n =>
    rw [hn] at hinteractions
    have hmem : e ∈ n.reads ∨ e ∈ n.writes := by simpa [reads, writes, hn] using he
    exact Interactions.exists_ofValue_of_mem hinteractions hmem

/-- The writes of a definition that was read were read each on its own. -/
theorem exists_ofValue_of_mem_writes (h : ofValue v = .ok d) {e : Effect} (he : e ∈ d.writes) :
    ∃ w, Effect.ofValue w = .ok e :=
  exists_ofValue_of_mem_effects h (List.mem_append_right _ he)

end Definition

end ClusterTutor
