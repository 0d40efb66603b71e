import ClusterTutor.Proofs.Definition.Reading
import ClusterTutor.Proofs.Definition.Token
import ClusterTutor.Proofs.Text.Squeeze

/-!
# Well-formed definitions

Whatever is done with a definition relies on what its reader has seen to: names are no blanks,
an option can be typed, a token of the options outside subcommands denotes one of them, a
subcommand is found by its name. A definition of which all this holds is *well-formed*
(`ClusterTutor.Definition.WellFormed`), and whatever the reader accepts is
(`ClusterTutor.Definition.accepted_wellFormed`).

The reader looks for shared spellings with a list of the tokens that it has seen, to which the
tokens of an option are added only when the whole option was looked at. So an option may spell
the same token twice, and the check is one of different options only
(`ClusterTutor.repeatedToken?_eq_none_iff`).
-/

namespace ClusterTutor

/-! ### Names -/

/-- **A text that names something**: it is not blank, and there are no blanks around it. -/
structure IsName (s : String) : Prop where
  /-- Some character is no blank. -/
  nonblank : Text.isBlankText s = false
  /-- Neither the first character is a blank nor the last. -/
  trimmed : Text.IsTrimmed s.toList

/-- What is left of a text without the blanks around it names something, if it was not blank. -/
theorem isName_trim {s : String} (h : Text.isBlankText s = false) : IsName (Text.trim s) where
  nonblank := by
    rw [← Bool.not_eq_true] at h ⊢
    rwa [Text.isBlankText_trim]
  trimmed := Text.isTrimmed_trim s

namespace Value

variable {fields : List (String × Value)} {name s : String} {v : Option Value}

theorem isName_of_nameField (h : nameField fields name = .ok s) : IsName s := by
  unfold nameField at h
  split at h
  · split at h
    · cases h
    · rename_i hnonblank
      obtain rfl := Except.ok.inj h
      exact isName_trim (Bool.not_eq_true _ ▸ hnonblank)
  · cases h

theorem isName_of_trimmed? (h : trimmed? v = .ok (some s)) : IsName s := by
  unfold trimmed? at h
  split at h
  · cases h
  · cases h
  · obtain ⟨w, -, h⟩ := bind_eq_ok.1 h
    have htext := Except.ok.inj h
    split at htext
    · cases htext
    · rename_i hsome
      obtain rfl := Option.some.inj htext
      refine isName_trim ?_
      by_contra hblank
      rw [Bool.not_eq_false, ← Text.isBlankText_trim, Text.isBlankText_trim_iff] at hblank
      simp [hblank] at hsome

end Value

/-! ### Options -/

namespace CommandOption

/-- **An option can be typed**, and what it says of its value is not blank. -/
structure WellFormed (o : CommandOption) : Prop where
  /-- There is a spelling. -/
  spelled : o.spellings ≠ []
  /-- No spelling is blank, in whatever field it is declared. -/
  declared : ∀ s, o.short = some s ∨ o.long = some s ∨ o.flag = some s → IsName s
  /-- The name of its value, if there is one, is not blank. -/
  arguments : ∀ s, o.arguments = some s → IsName s

/-- **No option of two shares a token with the other one.** -/
def Apart (o o' : CommandOption) : Prop := ∀ t ∈ o.tokens, t ∉ o'.tokens

variable {o : CommandOption} {v : Value}

theorem WellFormed.isName_of_mem_spellings (h : o.WellFormed) : ∀ s ∈ o.spellings, IsName s := by
  intro s hs
  obtain ⟨declared, hdeclared, hfilter⟩ := List.mem_filterMap.1 hs
  obtain ⟨hsome, -⟩ := Option.filter_eq_some_iff.1 hfilter
  refine h.declared s ?_
  simpa [hsome, eq_comm] using hdeclared

/-- **An option takes a value exactly if it has a name for it.** -/
theorem WellFormed.takesValue_iff (h : o.WellFormed) :
    o.takesValue = true ↔ o.arguments.isSome = true := by
  rw [takesValue]
  cases hname : o.arguments with
  | none => simp
  | some s =>
    have hs : s ≠ "" := by
      rintro rfl
      exact absurd (h.arguments "" hname).nonblank (by simp [Text.isBlankText])
    simpa using hs

theorem isName_of_argumentsOf {w : Option Value} {s : String}
    (h : argumentsOf w = .ok (some s)) : IsName s := by
  unfold argumentsOf at h
  split at h
  · have hvalue := Except.ok.inj h
    split at hvalue
    · obtain rfl := Option.some.inj hvalue
      exact isName_trim (s := "VALUE") rfl
    · cases hvalue
  · exact Value.isName_of_trimmed? h

theorem wellFormed_of_ofValue (h : ofValue v = .ok o) : o.WellFormed := by
  unfold ofValue at h
  split at h
  · simp only [bind_eq_ok] at h
    obtain ⟨_, -, short, hshort, long, hlong, flag, hflag, arguments, harguments, _, -, _, -, _, -,
      h⟩ := h
    split at h
    · cases h
    · rename_i hspelled
      obtain rfl := Except.ok.inj h
      refine ⟨fun hnil => hspelled (by rw [hnil]; rfl), ?_, ?_⟩
      · rintro s (hs | hs | hs)
        · exact Value.isName_of_trimmed? (hshort.trans (congrArg _ hs))
        · exact Value.isName_of_trimmed? (hlong.trans (congrArg _ hs))
        · exact Value.isName_of_trimmed? (hflag.trans (congrArg _ hs))
      · exact fun s hs => isName_of_argumentsOf (harguments.trans (congrArg _ hs))
  · cases h

end CommandOption

/-! ### Shared spellings -/

theorem repeatedToken?_go_eq_none_iff {seen : List String} {os : List CommandOption} :
    repeatedToken?.go seen os = none ↔
      (∀ o ∈ os, ∀ t ∈ o.tokens, t ∉ seen) ∧ os.Pairwise CommandOption.Apart := by
  induction os generalizing seen with
  | nil => simp [repeatedToken?.go]
  | cons o os ih =>
    rw [repeatedToken?.go, List.forall_mem_cons, List.pairwise_cons]
    cases hfound : o.tokens.find? seen.contains with
    | some t =>
      have hmem : t ∈ o.tokens := List.mem_of_find?_eq_some hfound
      have hseen : t ∈ seen := by simpa using List.find?_some hfound
      simp only [reduceCtorEq, false_iff, not_and]
      exact fun hnew => absurd hseen (hnew.1 t hmem)
    | none =>
      have hnew : ∀ t ∈ o.tokens, t ∉ seen := by simpa using hfound
      simp only [ih, List.mem_append, not_or]
      constructor
      · rintro ⟨hold, hapart⟩
        exact ⟨⟨hnew, fun o' ho' t ht => (hold o' ho' t ht).1⟩,
          fun o' ho' t ht ht' => (hold o' ho' t ht').2 ht, hapart⟩
      · rintro ⟨⟨-, hold⟩, hfirst, hapart⟩
        exact ⟨fun o' ho' t ht => ⟨hold o' ho' t ht, fun ht' => hfirst o' ho' t ht' ht⟩, hapart⟩

/-- **Options pass the check of shared spellings exactly if different ones share none.** What one
option spells twice makes no difference. -/
theorem repeatedToken?_eq_none_iff (os : List CommandOption) :
    repeatedToken? os = none ↔ os.Pairwise CommandOption.Apart := by
  rw [repeatedToken?, repeatedToken?_go_eq_none_iff]
  simp

/-! ### Subcommands and effects -/

theorem Text.allDistinct_iff {ss : List String} : allDistinct ss = true ↔ ss.Nodup := by
  induction ss with
  | nil => simp [allDistinct]
  | cons s ss ih => simp [allDistinct, ih]

/-- **A subcommand can be selected**, and all its options can be typed. -/
structure Subcommand.WellFormed (s : Subcommand) : Prop where
  /-- Its name names something. -/
  name : IsName s.name
  /-- Its options can be typed. -/
  options : ∀ o ∈ s.options, o.WellFormed

theorem Subcommand.wellFormed_of_ofValue {v : Value} {s : Subcommand} (h : ofValue v = .ok s) :
    s.WellFormed := by
  unfold ofValue at h
  split at h
  · obtain ⟨name, hname, h⟩ := bind_eq_ok.1 h
    obtain ⟨_, -, h⟩ := bind_eq_ok.1 h
    obtain ⟨vs, -, h⟩ := bind_eq_ok.1 h
    obtain ⟨options, hoptions, h⟩ := bind_eq_ok.1 h
    obtain rfl := Except.ok.inj h
    refine ⟨Value.isName_of_nameField hname, fun o ho => ?_⟩
    obtain ⟨w, -, hw⟩ := exists_of_mem_mapM hoptions ho
    exact CommandOption.wellFormed_of_ofValue hw
  · cases h

/-- **An effect is on a domain**, and the flags that it needs are tokens. -/
structure Effect.WellFormed (e : Effect) : Prop where
  /-- The domain has a name. -/
  domain : IsName e.domain
  /-- No flag has a dash at its front. -/
  undashed : ∀ needed, e.flags = some needed → ∀ flag ∈ needed, Undashed flag

theorem Effect.wellFormed_of_ofValue {v : Value} {e : Effect} (h : ofValue v = .ok e) :
    e.WellFormed where
  domain := by
    obtain ⟨fields, hdomain, -⟩ := exists_fields_of_ofValue h
    exact Value.isName_of_nameField hdomain
  undashed needed hneeded flag hflag := by
    obtain ⟨s, rfl⟩ := exists_tokenOf_of_ofValue h hneeded hflag
    exact undashed_tokenOf s

/-! ### Definitions -/

namespace Definition

/-- **What holds of a definition that can be used.** -/
structure WellFormed (d : Definition) : Prop where
  /-- The command has a name. -/
  command : IsName d.command
  /-- The category exists. -/
  category : d.category ∈ categories
  /-- All options, in subcommands or not, can be typed. -/
  options : ∀ o ∈ d.allOptions, o.WellFormed
  /-- Different options outside subcommands share no token. -/
  apart : d.options.Pairwise CommandOption.Apart
  /-- The subcommands have names. -/
  subcommands : ∀ s ∈ d.subcommands, IsName s.name
  /-- Different subcommands have different names. -/
  distinct : (d.subcommands.map Subcommand.name).Nodup
  /-- The effects are on domains, for flags that are tokens. -/
  effects : ∀ e ∈ d.reads ++ d.writes, e.WellFormed

variable {v : Value} {d : Definition}

/-- Where names are different, a subcommand is found by its name. -/
theorem subcommand?_name (h : (d.subcommands.map Subcommand.name).Nodup) {s : Subcommand}
    (hs : s ∈ d.subcommands) : d.subcommand? s.name = some s := by
  obtain ⟨before, after, hsplit⟩ := List.append_of_mem hs
  rw [hsplit, List.map_append, List.map_cons] at h
  rw [subcommand?, List.find?_eq_some_iff_append]
  refine ⟨beq_self_eq_true _, before, after, hsplit, fun s' hs' => ?_⟩
  have hne := (List.nodup_append.1 h).2.2 s'.name (List.mem_map_of_mem hs') s.name
    List.mem_cons_self
  simpa using hne

theorem wellFormed_of_ofValue (h : ofValue v = .ok d) : d.WellFormed := by
  obtain ⟨fields, -, hcommand, hcategory, ⟨os, -, hoptions⟩, htoken, ⟨ss, -, hsubcommands⟩,
    hdistinct, hinteractions⟩ := exists_fields_of_ofValue h
  have hsub : ∀ s ∈ d.subcommands, s.WellFormed := by
    intro s hs
    obtain ⟨w, -, hw⟩ := exists_of_mem_mapM hsubcommands hs
    exact Subcommand.wellFormed_of_ofValue hw
  refine
    { command := Value.isName_of_nameField hcommand
      category := by simpa using hcategory
      options := fun o ho => ?_
      apart := (repeatedToken?_eq_none_iff _).1 htoken
      subcommands := fun s hs => (hsub s hs).name
      distinct := Text.allDistinct_iff.1 hdistinct
      effects := fun e he => ?_ }
  · rcases List.mem_append.1 ho with ho | ho
    · obtain ⟨w, -, hw⟩ := exists_of_mem_mapM hoptions ho
      exact CommandOption.wellFormed_of_ofValue hw
    · obtain ⟨s, hs, ho⟩ := List.mem_flatMap.1 ho
      exact (hsub s hs).options o ho
  · obtain ⟨w, hw⟩ := exists_ofValue_of_mem_effects h he
    exact Effect.wellFormed_of_ofValue hw

/-- **What the reader accepts is well-formed.** Every spelling of every option names something, an
option takes a value exactly if it has a name for it, and a subcommand is found by its name. What
is refused for a shared spelling is never one option alone: options pass that check exactly if no
two different ones share a token. -/
theorem accepted_wellFormed (v : Value) :
    (∀ d, ofValue v = .ok d →
      d.WellFormed ∧
      (∀ o ∈ d.allOptions, (∀ s ∈ o.spellings, IsName s) ∧
        (o.takesValue = true ↔ o.arguments.isSome = true)) ∧
      ∀ s ∈ d.subcommands, d.subcommand? s.name = some s) ∧
    ∀ os, repeatedToken? os = none ↔ os.Pairwise CommandOption.Apart := by
  refine ⟨fun d h => ?_, repeatedToken?_eq_none_iff⟩
  have hd := wellFormed_of_ofValue h
  refine ⟨hd, fun o ho => ⟨(hd.options o ho).isName_of_mem_spellings, ?_⟩, fun s hs => ?_⟩
  · exact (hd.options o ho).takesValue_iff
  · exact subcommand?_name hd.distinct hs

/-- A record with blanks around its names, in which an option spells its token twice and a
subcommand spells it once more. -/
def scanRecord : Value := .object [
  ("command", .string "  scan "),
  ("global_options", .array [.object [
    ("short", .string " -v"), ("long", .string "--v="), ("arguments", .string " LEVEL ")]]),
  ("subcommands", .array [.object [
    ("name", .string "run\t"),
    ("options", .array [.object [("flag", .string "v"), ("arguments", .string " ")]])]]),
  ("state_interactions", .object [("writes_to", .array [.object [
    ("state_domain", .string " gpu_state "),
    ("fields", .array [.string "mode"]),
    ("requires_flags", .array [.string "--v"])]])])]

/-- What is read of it. -/
def scan : Definition where
  command := "scan"
  synopsis := "scan"
  options := [{ short := some "-v", long := some "--v=", arguments := some "LEVEL" }]
  subcommands := [{ name := "run", options := [{ flag := some "v" }] }]
  interactions := some {
    writes := [{ domain := "gpu_state", fields := ["mode"], flags := some ["v"] }] }

theorem scan_wellFormed :
    ofValue scanRecord = .ok scan ∧ scan.WellFormed ∧
      ∀ s ∈ scan.subcommands, scan.subcommand? s.name = some s := by
  have hread : ofValue scanRecord = .ok scan := by rfl
  obtain ⟨hwell, -, hfound⟩ := (accepted_wellFormed scanRecord).1 scan hread
  exact ⟨hread, hwell, hfound⟩

end Definition

end ClusterTutor
