import ClusterTutor.Proofs.Definition.Token
import ClusterTutor.Proofs.Text.Suggestion
import ClusterTutor.Validation

/-!
# Declared options

Three questions are asked of the options of a command: whether a flag is declared, by which
option, and whether it takes a value. All three are about the token of the flag, and they are
answered for the same tokens (`ClusterTutor.Catalogue.flags_answered_alike`).

| question | answer |
|---|---|
| the check of a flag | whether some option declares the token |
| the option of a flag | the first one that declares it (`ClusterTutor.Definition.IsFirst`) |
| the schema | the last one that declares it (`ClusterTutor.Definition.IsLast`) |

So the last two may differ only where several options declare one token. Flags that are not
declared are answered with the nearest tokens that are.
-/

namespace ClusterTutor

namespace Definition

/-- **The first option that declares a token**: those outside subcommands come first, then
those of the subcommands in order. -/
def IsFirst (d : Definition) (t : String) (o : CommandOption) : Prop :=
  ∃ earlier later, d.allOptions = earlier ++ o :: later ∧ t ∈ o.tokens ∧
    ∀ o' ∈ earlier, t ∉ o'.tokens

/-- **The last option that declares a token.** -/
def IsLast (d : Definition) (t : String) (o : CommandOption) : Prop :=
  ∃ earlier later, d.allOptions = earlier ++ o :: later ∧ t ∈ o.tokens ∧
    ∀ o' ∈ later, t ∉ o'.tokens

variable {d : Definition} {t : String}

/-- The first option that declares a token is one of the options, and declares it. -/
theorem IsFirst.declared {o : CommandOption} (h : d.IsFirst t o) :
    o ∈ d.allOptions ∧ t ∈ o.tokens := by
  obtain ⟨earlier, later, hoptions, hmem, -⟩ := h
  rw [hoptions]
  exact ⟨List.mem_append_right _ List.mem_cons_self, hmem⟩

/-! ### Declared tokens -/

theorem mem_tokens_iff : t ∈ d.tokens ↔ ∃ o ∈ d.allOptions, t ∈ o.tokens := by
  rw [tokens, List.mem_flatMap]

theorem undashed_of_mem_tokens (h : t ∈ d.tokens) : Undashed t := by
  obtain ⟨o, -, hmem⟩ := mem_tokens_iff.1 h
  obtain ⟨s, -, rfl⟩ := List.mem_map.1 hmem
  exact undashed_tokenOf s

theorem checkFlag_eq_valid_iff (d : Definition) (flag : String) :
    d.checkFlag flag = .valid ↔ tokenOf flag ∈ d.tokens := by
  by_cases h : tokenOf flag ∈ d.tokens <;> simp [checkFlag, Verdict.of, h]

/-- **The option of a flag is the first one that declares its token.** -/
theorem option?_eq_some_iff {flag : String} {o : CommandOption} :
    d.option? flag = some o ↔ d.IsFirst (tokenOf flag) o := by
  rw [option?, List.find?_eq_some_iff_append]
  constructor
  · rintro ⟨hdeclares, earlier, later, hoptions, hearlier⟩
    exact ⟨earlier, later, hoptions, by simpa using hdeclares,
      fun o' ho' => by simpa using hearlier o' ho'⟩
  · rintro ⟨earlier, later, hoptions, hdeclares, hearlier⟩
    exact ⟨by simpa using hdeclares, earlier, later, hoptions,
      fun o' ho' => by simpa using hearlier o' ho'⟩

theorem exists_option?_iff (d : Definition) (flag : String) :
    (∃ o, d.option? flag = some o) ↔ tokenOf flag ∈ d.tokens := by
  rw [← Option.isSome_iff_exists, option?, List.find?_isSome, mem_tokens_iff]
  simp

/-! ### The schema -/

/-- What the options of a list write to a schema: for each token, whether the last one that
declares it takes a value. -/
theorem get?_insertAll_options (m : FlagSchema) (os : List CommandOption) (t : String) :
    (m.insertAll (os.flatMap fun o => o.tokens.map fun t => (t, o.takesValue))).get? t =
      ((os.reverse.find? fun o => o.tokens.contains t).map CommandOption.takesValue).or
        (m.get? t) := by
  induction os generalizing m with
  | nil => rfl
  | cons o os ih =>
    rw [List.flatMap_cons, OrderedMap.insertAll_append, ih, OrderedMap.get?_insertAll_const,
      List.reverse_cons, List.find?_append]
    cases os.reverse.find? fun o => o.tokens.contains t with
    | some o' => rfl
    | none => by_cases h : t ∈ o.tokens <;> simp [h]

theorem get?_schema (d : Definition) (t : String) :
    d.schema.get? t =
      (d.allOptions.reverse.find? fun o => o.tokens.contains t).map CommandOption.takesValue := by
  rw [schema, OrderedMap.ofList, get?_insertAll_options, OrderedMap.get?_empty, Option.or_none]

/-- **The schema says of a token what the last option that declares it says.** -/
theorem get?_schema_eq_some_iff {takes : Bool} :
    d.schema.get? t = some takes ↔ ∃ o, d.IsLast t o ∧ o.takesValue = takes := by
  rw [get?_schema, Option.map_eq_some_iff]
  refine exists_congr fun o => and_congr_left fun _ => ?_
  rw [List.find?_eq_some_iff_append]
  constructor
  · rintro ⟨hdeclares, later, earlier, hoptions, hlater⟩
    refine ⟨earlier.reverse, later.reverse, ?_, by simpa using hdeclares, fun o' ho' => ?_⟩
    · rw [← List.reverse_inj, hoptions]
      simp
    · simpa using hlater o' (List.mem_reverse.1 ho')
  · rintro ⟨earlier, later, hoptions, hdeclares, hlater⟩
    refine ⟨by simpa using hdeclares, later.reverse, earlier.reverse, ?_, fun o' ho' => ?_⟩
    · simp [hoptions]
    · simpa using hlater o' (List.mem_reverse.1 ho')

theorem mem_keys_schema : t ∈ d.schema.keys ↔ t ∈ d.tokens := by
  rw [schema, OrderedMap.ofList, OrderedMap.mem_keys_insertAll, mem_tokens_iff]
  simp [List.mem_flatMap]

theorem exists_get?_schema (h : t ∈ d.tokens) : ∃ takes, d.schema.get? t = some takes := by
  rw [← Option.isSome_iff_exists]
  exact (d.schema.contains_iff t).2 (mem_keys_schema.2 h)

/-- An absent schema is one without keys. -/
theorem schema?_bind_get? (d : Definition) (t : String) :
    (d.schema?.bind fun s => s.get? t) = d.schema.get? t := by
  unfold schema?
  split
  · rename_i hempty
    have hnil : d.schema.toList = [] := List.isEmpty_iff.1 hempty
    rw [OrderedMap.get?, hnil]
    rfl
  · rfl

theorem exists_schema?_iff (d : Definition) (t : String) :
    (∃ s, d.schema? = some s ∧ t ∈ s.keys) ↔ t ∈ d.tokens := by
  rw [← mem_keys_schema, ← OrderedMap.contains_iff, OrderedMap.contains, ← schema?_bind_get?]
  cases d.schema? with
  | none => simp
  | some s => simp [← OrderedMap.contains_iff, OrderedMap.contains]

/-- **Where one option alone declares a token**, it is the first and the last. -/
theorem IsFirst.isLast {o : CommandOption} (h : d.IsFirst t o)
    (hlone : d.allOptions.countP (fun o' => o'.tokens.contains t) = 1) : d.IsLast t o := by
  obtain ⟨earlier, later, hoptions, hdeclares, -⟩ := h
  refine ⟨earlier, later, hoptions, hdeclares, ?_⟩
  have hcontains : o.tokens.contains t = true := by simpa using hdeclares
  rw [hoptions, List.countP_append, List.countP_cons, if_pos hcontains] at hlone
  have hlater : later.countP (fun o' => o'.tokens.contains t) = 0 := by omega
  intro o' ho'
  simpa using List.countP_eq_zero.1 hlater o' ho'

end Definition

/-! ### One language -/

namespace Catalogue

/-- **What a catalogue answers to a flag of a command**, in the three ways in which it can be
asked. -/
structure AnswersAlike (c : Catalogue) (command : String) (d : Definition) (flag : String) :
    Prop where
  /-- The flag is valid exactly if there is an option for it. -/
  valid_iff : c.checkFlag command flag = .valid ↔ ∃ o, d.option? flag = some o
  /-- There is an option for it exactly if there is a schema and it has the token. -/
  exists_iff : (∃ o, d.option? flag = some o) ↔
    ∃ s, c.schema? command = some s ∧ tokenOf flag ∈ s.keys
  /-- The option is the first one that declares the token. -/
  first : ∀ o, d.option? flag = some o ↔ d.IsFirst (tokenOf flag) o
  /-- The schema says what the last one that declares the token says. -/
  last : ∀ takes, ((c.schema? command).bind fun s => s.get? (tokenOf flag)) = some takes ↔
    ∃ o, d.IsLast (tokenOf flag) o ∧ o.takesValue = takes
  /-- So the two agree where one option alone declares it. -/
  lone : d.allOptions.countP (fun o => o.tokens.contains (tokenOf flag)) = 1 →
    ∀ o, d.option? flag = some o →
      ((c.schema? command).bind fun s => s.get? (tokenOf flag)) = some o.takesValue
  /-- With more dashes at its front, or fewer, the flag is answered in the same way. -/
  dashed : ∀ n flag', flag' = String.ofList (List.replicate n '-') ++ flag ∨
      flag = String.ofList (List.replicate n '-') ++ flag' →
    c.checkFlag command flag' = c.checkFlag command flag ∧ d.option? flag' = d.option? flag ∧
      ((c.schema? command).bind fun s => s.get? (tokenOf flag')) =
        (c.schema? command).bind fun s => s.get? (tokenOf flag)
  /-- A flag without an option is answered with the at most three declared tokens that are
  nearest to its token, within two edits. -/
  suggested : d.option? flag = none → ∃ selected, c.checkFlag command flag = .invalid selected ∧
    Text.Selects (tokenOf flag) d.tokens 2 3 selected

variable {c : Catalogue} {command : String} {d : Definition}

theorem checkFlag_eq (hloaded : c.isLoaded = true) (hd : c.get? command = some d) (flag : String) :
    c.checkFlag command flag = d.checkFlag flag := by
  simp [checkFlag, hloaded, hd]

theorem schema?_bind_get? (hd : c.get? command = some d) (t : String) :
    ((c.schema? command).bind fun s => s.get? t) = d.schema.get? t := by
  rw [schema?, hd, Option.bind_some, Definition.schema?_bind_get?]

/-- **A check, an option and a schema describe one language.** In a catalogue that is loaded, a
flag of a command is valid exactly if there is an option for it, and exactly if the schema has
its token; the option is the first one that declares the token and the schema speaks of the last
one; dashes at the front make no difference; and a flag that is not declared is answered with the
nearest tokens. -/
theorem flags_answered_alike (hloaded : c.isLoaded = true) (hd : c.get? command = some d)
    (flag : String) : c.AnswersAlike command d flag := by
  have hsame : ∀ n flag', flag' = String.ofList (List.replicate n '-') ++ flag ∨
      flag = String.ofList (List.replicate n '-') ++ flag' → tokenOf flag' = tokenOf flag := by
    rintro n flag' (rfl | rfl)
    · exact tokenOf_dashed n flag
    · exact (tokenOf_dashed n flag').symm
  constructor
  · rw [checkFlag_eq hloaded hd, d.checkFlag_eq_valid_iff, d.exists_option?_iff]
  · rw [d.exists_option?_iff, schema?, hd, Option.bind_some, d.exists_schema?_iff]
  · exact fun o => Definition.option?_eq_some_iff
  · intro takes
    rw [schema?_bind_get? hd]
    exact Definition.get?_schema_eq_some_iff
  · intro hlone o ho
    rw [schema?_bind_get? hd]
    have hfirst := Definition.option?_eq_some_iff.1 ho
    exact Definition.get?_schema_eq_some_iff.2 ⟨o, hfirst.isLast hlone, rfl⟩
  · intro n flag' hdashes
    have htoken := hsame n flag' hdashes
    rw [checkFlag_eq hloaded hd, checkFlag_eq hloaded hd, Definition.checkFlag,
      Definition.checkFlag, Definition.option?, Definition.option?, htoken]
    exact ⟨rfl, rfl, rfl⟩
  · intro hnone
    have hmiss : tokenOf flag ∉ d.tokens := by
      rw [← d.exists_option?_iff, hnone]
      simp
    have hlimit : 0 ≤ Text.suggestionLimit := by decide
    refine ⟨Text.usualSuggestions (tokenOf flag) d.tokens, ?_,
      Text.selects_suggestions _ _ Text.suggestionDistance hlimit⟩
    rw [checkFlag_eq hloaded hd]
    simp [Definition.checkFlag, Verdict.of, hmiss]

/-- An option of the command without a value and one of a subcommand with a value have the same
token: the flag is that of the first, and takes a value by the second. -/
theorem output_declared_twice :
    let plain : CommandOption := { short := some "-o" }
    let named : CommandOption := { short := some "-o", arguments := some "FILE" }
    let d : Definition :=
      { command := "tool", synopsis := "tool", options := [plain]
        subcommands := [{ name := "dump", options := [named] }] }
    let c := ofDefinitions [d]
    c.isLoaded = true ∧ c.get? "tool" = some d ∧ c.AnswersAlike "tool" d "--o" ∧
    d.option? "--o" = some plain ∧ d.IsLast "o" named ∧
    ((c.schema? "tool").bind fun s => s.get? "o") = some true := by
  intro plain named d c
  have hd : c.get? "tool" = some d := rfl
  have hanswers : c.AnswersAlike "tool" d "--o" := flags_answered_alike rfl hd "--o"
  have hlast : d.IsLast "o" named := ⟨[plain], [], rfl, by decide, by simp⟩
  exact ⟨rfl, hd, hanswers, by decide, hlast, (hanswers.last true).2 ⟨named, hlast, rfl⟩⟩

end Catalogue

end ClusterTutor
