import ClusterTutor.CommandLine.Basic
import Mathlib.Data.List.TakeWhile

/-!
# Flags among the words of a line

A command that has a schema may be typed with its flags anywhere: before its words, after them
or between them. Only the order of the words among themselves counts, and that of the flags
among themselves. This module says what may be typed as a flag
(`ClusterTutor.CommandLine.TypedFlag`), and how words and flags are put together
(`ClusterTutor.CommandLine.Interleaves`); every way of putting them together is then read as
the same (`ClusterTutor.ParsedLine.ofLine_of_interleaves`).

There are two reasons why the places of the flags do not matter, and each is a statement of
its own.

* **A flag is read as a whole.** The schema says whether the next word belongs to it, so that
  nothing is taken from what stands behind it (`ClusterTutor.CommandLine.partsOf_typed`).
* **A flag does not end the subcommands.** Where they end is decided by the words alone
  (`ClusterTutor.ParsedLine.ofParts_eq`). Without a schema this fails.
-/

namespace ClusterTutor

namespace CommandLine

/-! ### Flags as they are typed -/

/-- A flag as it is typed, with its value if it has one. -/
inductive TypedFlag where
  /-- A flag that takes no value. -/
  | alone (flag : String)
  /-- A flag that takes the next word as its value. -/
  | withNext (flag value : String)
  /-- A long flag with its value behind an equals sign. -/
  | assigned (name value : String)
deriving DecidableEq, Repr

/-- **A flag without a value of its own.** It is a flag but no `--`, and a long one has no equals
sign in it: what stands behind the sign would be its value. -/
structure IsUnassigned (flag : String) : Prop where
  /-- It is a flag. -/
  isFlag : isFlag flag = true
  /-- It does not end the flags. -/
  ne_terminator : flag ≠ "--"
  /-- It has no value of its own. -/
  unassigned : isLong flag = true → '=' ∉ flag.toList

/-- Whether a flag wants the next word as its value: what the schema says of its name, and
otherwise what its form suggests. -/
def wantsValue (schema : Option FlagSchema) (flag : String) : Bool :=
  (schema.bind (·.get? (flagName flag))).getD (isLong flag || (flagName flag).length == 1)

/-- A flag takes the next word exactly if it wants one and the word is no flag. -/
theorem takesNext_eq (schema : Option FlagSchema) (flag next : String) :
    takesNext schema flag next = (!isFlag next && wantsValue schema flag) := by
  unfold takesNext wantsValue
  cases isFlag next <;> cases schema.bind (·.get? (flagName flag)) <;> rfl

/-- **A schema knows a flag**, and says whether it takes the next word. The flag is no `--`, and
a long flag has no equals sign in it: what stands behind the sign would be its value. -/
structure Knows (schema : FlagSchema) (flag : String) (takes : Bool) : Prop where
  /-- It is a flag. -/
  isFlag : isFlag flag = true
  /-- It does not end the flags. -/
  ne_terminator : flag ≠ "--"
  /-- It has no value of its own. -/
  unassigned : isLong flag = true → '=' ∉ flag.toList
  /-- The schema has its name. -/
  get? : schema.get? (flagName flag) = some takes

instance (schema : FlagSchema) (flag : String) (takes : Bool) :
    Decidable (Knows schema flag takes) :=
  decidable_of_iff
    (CommandLine.isFlag flag = true ∧ flag ≠ "--" ∧ (isLong flag = true → '=' ∉ flag.toList) ∧
      schema.get? (flagName flag) = some takes)
    ⟨fun ⟨hflag, hne, hunassigned, hget⟩ => ⟨hflag, hne, hunassigned, hget⟩,
      fun ⟨hflag, hne, hunassigned, hget⟩ => ⟨hflag, hne, hunassigned, hget⟩⟩

namespace TypedFlag

/-- The words in which a flag is typed. -/
def words : TypedFlag → List String
  | alone flag => [flag]
  | withNext flag value => [flag, value]
  | assigned name value => ["--" ++ name ++ "=" ++ value]

/-- What a flag binds, and to what. -/
def binding : TypedFlag → String × FlagValue
  | alone flag => (flagName flag, .present)
  | withNext flag value => (flagName flag, .given value)
  | assigned name value => (flagName name, .given value)

/-- The part of a line that a flag is. -/
def part : TypedFlag → Part
  | alone flag => .bare (flagName flag)
  | withNext flag value => .separate (flagName flag) value
  | assigned name value => .inline (flagName name) value

/-- **Whether a flag is typed as the schema wants it**: with the next word if it takes one, and
without it if it takes none. A value behind an equals sign can always be given. -/
def Fits (schema : FlagSchema) : TypedFlag → Prop
  | alone flag => Knows schema flag false
  | withNext flag value => Knows schema flag true ∧ isFlag value = false
  | assigned name _ => '=' ∉ name.toList

instance (schema : FlagSchema) : (f : TypedFlag) → Decidable (f.Fits schema)
  | alone flag => inferInstanceAs (Decidable (Knows schema flag false))
  | withNext flag value =>
    inferInstanceAs (Decidable (Knows schema flag true ∧ isFlag value = false))
  | assigned name _ => inferInstanceAs (Decidable ('=' ∉ name.toList))

/-- **Whether flags are typed like this**: only a value behind an equals sign may have the form
of a flag, and the name in front of the sign ends at the first one. -/
def IsTyped : TypedFlag → Prop
  | alone flag => IsUnassigned flag
  | withNext flag value => IsUnassigned flag ∧ isFlag value = false
  | assigned name _ => '=' ∉ name.toList

/-- **Whether a flag ends where it is said to** in front of some words: it takes the first of
them if it wants a value, and leaves it otherwise. -/
def Ends (schema : Option FlagSchema) (ws : List String) : TypedFlag → Prop
  | alone flag => ∀ next ∈ ws.head?, isFlag next = false → wantsValue schema flag = false
  | withNext flag _ => wantsValue schema flag = true
  | assigned _ _ => True

@[simp] theorem flag?_part (f : TypedFlag) : f.part.flag? = some f.binding := by
  cases f <;> rfl

@[simp] theorem word?_part (f : TypedFlag) : f.part.word? = none := by
  cases f <;> rfl

end TypedFlag

/-- **Words and flags put together** in some order, in which the words keep theirs and the flags
keep theirs. The words of one flag stay together. -/
inductive Interleaves : List String → List TypedFlag → List String → Prop
  /-- Nothing is put together from nothing. -/
  | nil : Interleaves [] [] []
  /-- The first word comes first. -/
  | word (w : String) {words : List String} {flags : List TypedFlag} {ws : List String} :
    Interleaves words flags ws → Interleaves (w :: words) flags (w :: ws)
  /-- The first flag comes first. -/
  | flag (f : TypedFlag) {words : List String} {flags : List TypedFlag} {ws : List String} :
    Interleaves words flags ws → Interleaves words (f :: flags) (f.words ++ ws)

/-! ### Reading one word or one flag -/

variable {schema : FlagSchema} {words : List String} {flags : List TypedFlag} {ws : List String}

theorem isFlag_terminator : isFlag "--" = true := by decide

/-- A word that is no flag is read as a word. -/
theorem partsOf_word {w : String} (hw : isFlag w = false) (schema : Option FlagSchema)
    (ws : List String) : partsOf schema (w :: ws) = .word w :: partsOf schema ws := by
  have hne : w ≠ "--" := by
    rintro rfl
    rw [isFlag_terminator] at hw
    simp at hw
  rw [partsOf.eq_def]
  simp [hne, hw]

/-- What begins with dashes and goes on with an equals sign loses no more than the dashes. -/
theorem dropDashes_assigned (name value : String) :
    dropDashes ("--" ++ name ++ "=" ++ value) = dropDashes name ++ '=' :: value.toList := by
  simp [dropDashes, String.toList_append, List.dropWhile_append]

theorem ne_equals_of_mem_dropDashes {s : String} (h : '=' ∉ s.toList) :
    ∀ c ∈ dropDashes s, (c != '=') = true := by
  intro c hc
  have hmem : c ∈ s.toList := (List.dropWhile_sublist _).subset hc
  rw [bne_iff_ne]
  rintro rfl
  exact h hmem

theorem isLong_assigned (name value : String) :
    isLong ("--" ++ name ++ "=" ++ value) = true := by
  simp [isLong, String.toList_append]

/-- What has two dashes at its front is a flag, since no number has. -/
theorem isFlag_of_isLong {w : String} (h : isLong w = true) : isFlag w = true := by
  have hdash : Text.isDecimalDigit '-' = false := by decide
  unfold isLong at h
  split at h
  · rename_i hw
    simp [isFlag, hw, Numeral.isInteger, hdash]
  · simp at h

/-- **A long flag with an equals sign** has what stands behind the first one as its value. -/
theorem inlineValue?_assigned {name : String} (h : '=' ∉ name.toList) (value : String) :
    inlineValue? ("--" ++ name ++ "=" ++ value) = some (flagName name, value) := by
  have hname := ne_equals_of_mem_dropDashes h
  rw [inlineValue?, if_pos (isLong_assigned name value)]
  simp only [dropDashes_assigned, List.dropWhile_append_of_pos hname,
    List.takeWhile_append_of_pos hname]
  simp [flagName]

theorem inlineValue?_eq_none {flag : String} (h : isLong flag = true → '=' ∉ flag.toList) :
    inlineValue? flag = none := by
  rw [inlineValue?]
  split
  · rename_i hlong
    have hnil := List.dropWhile_eq_nil_iff.2 (ne_equals_of_mem_dropDashes (h hlong))
    simp only [hnil]
  · rfl

/-- **A flag is read as a whole** where it ends as it is typed. -/
theorem partsOf_flag {schema : Option FlagSchema} {f : TypedFlag} {ws : List String}
    (hf : f.IsTyped) (hends : f.Ends schema ws) :
    partsOf schema (f.words ++ ws) = f.part :: partsOf schema ws := by
  cases f with
  | alone flag =>
    obtain ⟨hflag, hne, hunassigned⟩ := hf
    rw [TypedFlag.words, List.singleton_append, partsOf.eq_def]
    simp only [hne, hflag, inlineValue?_eq_none hunassigned, if_false, Bool.not_true,
      Bool.false_eq_true]
    cases ws with
    | nil => rfl
    | cons next rest =>
      have htakes : takesNext schema flag next = false := by
        rw [takesNext_eq]
        cases hnext : isFlag next with
        | true => rfl
        | false => simpa using hends next rfl hnext
      simp only [htakes, Bool.false_eq_true, if_false, TypedFlag.part]
  | withNext flag value =>
    obtain ⟨⟨hflag, hne, hunassigned⟩, hvalue⟩ := hf
    have hwants : wantsValue schema flag = true := hends
    have htakes : takesNext schema flag value = true := by
      rw [takesNext_eq, hvalue, hwants]
      rfl
    rw [TypedFlag.words, List.cons_append, List.singleton_append, partsOf.eq_def]
    simp only [hne, hflag, inlineValue?_eq_none hunassigned, htakes, if_false, if_true,
      Bool.not_true, Bool.false_eq_true, TypedFlag.part]
  | assigned name value =>
    have hflag := isFlag_of_isLong (isLong_assigned name value)
    have hne : "--" ++ name ++ "=" ++ value ≠ "--" := by
      intro heq
      have hchars := congrArg String.toList heq
      simp [String.toList_append] at hchars
    rw [TypedFlag.words, List.singleton_append, partsOf.eq_def]
    simp only [hne, hflag, inlineValue?_assigned hf, if_false, Bool.not_true, Bool.false_eq_true,
      TypedFlag.part]

/-- A flag that is typed as a schema wants it is typed as flags are, and ends in front of
whatever follows: the schema says where. -/
theorem TypedFlag.Fits.isTyped_and_ends {f : TypedFlag} (hf : f.Fits schema) (ws : List String) :
    f.IsTyped ∧ f.Ends (some schema) ws := by
  cases f with
  | alone flag =>
    obtain ⟨hflag, hne, hunassigned, hget⟩ := hf
    exact ⟨⟨hflag, hne, hunassigned⟩, fun _ _ _ => by simp [wantsValue, hget]⟩
  | withNext flag value =>
    obtain ⟨⟨hflag, hne, hunassigned, hget⟩, hvalue⟩ := hf
    exact ⟨⟨⟨hflag, hne, hunassigned⟩, hvalue⟩, by simp [Ends, wantsValue, hget]⟩
  | assigned name value => exact ⟨hf, trivial⟩

/-- **Flags of a schema are read as a whole** in front of anything. -/
theorem partsOf_typed {f : TypedFlag} (hf : f.Fits schema) (ws : List String) :
    partsOf (some schema) (f.words ++ ws) = f.part :: partsOf (some schema) ws := by
  obtain ⟨htyped, hends⟩ := hf.isTyped_and_ends ws
  exact partsOf_flag htyped hends

/-- **The parts of words and flags put together** are those words and those flags. -/
theorem partsOf_of_interleaves (hwords : ∀ w ∈ words, isFlag w = false)
    (hflags : ∀ f ∈ flags, f.Fits schema) (h : Interleaves words flags ws) :
    (partsOf (some schema) ws).filterMap Part.word? = words ∧
      (partsOf (some schema) ws).filterMap Part.flag? = flags.map TypedFlag.binding := by
  induction h with
  | nil => exact ⟨rfl, rfl⟩
  | word w _ ih =>
    obtain ⟨hw, hrest⟩ := List.forall_mem_cons.1 hwords
    obtain ⟨ihwords, ihflags⟩ := ih hrest hflags
    rw [partsOf_word hw]
    have hword : (Part.word w).word? = some w := rfl
    have hflag : (Part.word w).flag? = none := rfl
    rw [List.filterMap_cons_some hword, List.filterMap_cons_none hflag, ihwords, ihflags]
    exact ⟨rfl, rfl⟩
  | flag f _ ih =>
    obtain ⟨hf, hrest⟩ := List.forall_mem_cons.1 hflags
    obtain ⟨ihwords, ihflags⟩ := ih hwords hrest
    rw [partsOf_typed hf]
    simp [ihwords, ihflags]

end CommandLine

namespace ParsedLine

open CommandLine

/-- Whether a word may be a subcommand: it is neither an assignment nor a number. -/
def mayBeSubcommand (w : String) : Bool :=
  !(w.toList.contains '=' || Numeral.isInteger w)

/-- With a schema only a word ends the subcommands. -/
theorem endsSubcommands_eq (p : Part) :
    (!p.endsSubcommands true) = p.word?.all mayBeSubcommand := by
  cases p <;> rfl

/-- **With a schema the subcommands are split off from the words alone.** -/
theorem ofParts_eq (command : String) (parts : List Part) :
    ofParts true command parts =
      { command
        subcommands := (parts.filterMap Part.word?).takeWhile mayBeSubcommand
        flags := .ofList (parts.filterMap Part.flag?)
        positionals := (parts.filterMap Part.word?).dropWhile mayBeSubcommand } := by
  simp only [ofParts, endsSubcommands_eq, List.takeWhile_filterMap, List.dropWhile_filterMap]

/-- A line is read from the parts behind its command. -/
theorem ofLine_eq_ofParts {command line : String} {ws : List String}
    (hline : words? (Text.trim line) = some (command :: ws)) (schema : Option FlagSchema) :
    ofLine schema line = ofParts schema.isSome command (partsOf schema ws) := by
  rw [ofLine, hline, Option.getD_some, ofWords]

/-- **Flags may stand anywhere among the words.** -/
theorem ofLine_of_interleaves {schema : FlagSchema} {command line : String} {words ws : List String}
    {flags : List TypedFlag} (hwords : ∀ w ∈ words, isFlag w = false)
    (hflags : ∀ f ∈ flags, f.Fits schema) (h : Interleaves words flags ws)
    (hline : words? (Text.trim line) = some (command :: ws)) :
    ofLine (some schema) line =
      { command
        subcommands := words.takeWhile mayBeSubcommand
        flags := .ofList (flags.map TypedFlag.binding)
        positionals := words.dropWhile mayBeSubcommand } := by
  obtain ⟨hparts, hbindings⟩ := partsOf_of_interleaves hwords hflags h
  rw [ofLine_eq_ofParts hline, Option.isSome_some, ofParts_eq, hparts, hbindings]

/-- Three flags of a container stand before, between and behind the same words: the negative
number is a value, and the words end their subcommands with the port. -/
theorem container_flags_anywhere :
    let schema : FlagSchema := .ofList [("rm", false), ("nice", true)]
    let words := ["run", "image", "8080"]
    let flags : List TypedFlag :=
      [.alone "--rm", .withNext "--nice" "-5", .assigned "env" "A=1"]
    (∀ w ∈ words, isFlag w = false) ∧ (∀ f ∈ flags, f.Fits schema) ∧
    Interleaves words flags ["--rm", "run", "--nice", "-5", "image", "8080", "--env=A=1"] ∧
    Interleaves words flags ["run", "image", "--rm", "--nice", "-5", "--env=A=1", "8080"] ∧
    ofLine (some schema) "docker --rm run --nice -5 image 8080 --env=A=1" =
      ofLine (some schema) "docker run image --rm --nice -5 --env=A=1 8080" ∧
    (ofLine (some schema) "docker --rm run --nice -5 image 8080 --env=A=1").subcommands =
      ["run", "image"] := by
  intro schema words flags
  have hwords : ∀ w ∈ words, isFlag w = false := by decide
  have hflags : ∀ f ∈ flags, f.Fits schema := by decide
  have hmixed : Interleaves words flags
      ["--rm", "run", "--nice", "-5", "image", "8080", "--env=A=1"] :=
    .flag (.alone "--rm") (.word "run" (.flag (.withNext "--nice" "-5") (.word "image"
      (.word "8080" (.flag (.assigned "env" "A=1") .nil)))))
  have hlate : Interleaves words flags
      ["run", "image", "--rm", "--nice", "-5", "--env=A=1", "8080"] :=
    .word "run" (.word "image" (.flag (.alone "--rm") (.flag (.withNext "--nice" "-5")
      (.flag (.assigned "env" "A=1") (.word "8080" .nil)))))
  have hmixedLine : words? (Text.trim "docker --rm run --nice -5 image 8080 --env=A=1") =
      some ("docker" :: ["--rm", "run", "--nice", "-5", "image", "8080", "--env=A=1"]) := by
    decide
  have hlateLine : words? (Text.trim "docker run image --rm --nice -5 --env=A=1 8080") =
      some ("docker" :: ["run", "image", "--rm", "--nice", "-5", "--env=A=1", "8080"]) := by
    decide
  have hread := ofLine_of_interleaves hwords hflags hmixed hmixedLine
  have hread' := ofLine_of_interleaves hwords hflags hlate hlateLine
  refine ⟨hwords, hflags, hmixed, hlate, hread.trans hread'.symm, ?_⟩
  rw [hread]
  decide

end ParsedLine

end ClusterTutor
