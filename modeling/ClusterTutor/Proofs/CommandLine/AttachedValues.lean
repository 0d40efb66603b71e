import ClusterTutor.Proofs.CommandLine.Pieces
import ClusterTutor.Proofs.Definition.Token

/-!
# Values behind an equals sign and values in the next word

A long flag may have its value behind an equals sign, `--name=value`, or in the next word,
`--name value`. Both are read as the same line (`ClusterTutor.ParsedLine.ofLine_assigned`),
unless the schema says that the flag takes no value or the value has the form of a flag:
then the next word would not belong to the flag.

The two forms take one word and two, so the rest of the line stands at different places. That
this makes no difference has two reasons. A flag in the middle of a line is read where it stands,
what is in front of it as if the line ended there and what is behind it as if the line began
there (`ClusterTutor.CommandLine.partsOf_append_flag`); and a line does not show in how many
words a value was given (`ClusterTutor.ParsedLine.ofParts_congr`).
-/

namespace ClusterTutor

namespace CommandLine

variable {schema : Option FlagSchema} {ws ws' : List String} {pieces pieces' : List Piece}

/-- **A flag cuts a line in two**: what stands in front of it is read on its own, since no flag
is taken as a value. In front of it the flags must not have ended. -/
theorem Reads.append (h : Reads schema ws pieces) (hopen : "--" ∉ ws)
    (h' : Reads schema ws' pieces') (hflag : ∀ next ∈ ws'.head?, isFlag next = true) :
    Reads schema (ws ++ ws') (pieces ++ pieces') := by
  induction h with
  | nil => exact h'
  | word hw _ ih =>
    rw [List.mem_cons, not_or] at hopen
    exact .word hw (ih hopen.2)
  | @flag f ws pieces htyped hends _ ih =>
    rw [List.mem_append, not_or] at hopen
    have hends' : f.Ends schema (ws ++ ws') := by
      cases f with
      | alone flag =>
        cases ws with
        | nil =>
          intro next hnext hword
          rw [hflag next hnext] at hword
          exact absurd hword (by simp)
        | cons w ws => exact hends
      | withNext flag value => exact hends
      | assigned name value => trivial
    rw [List.append_assoc]
    exact .flag htyped hends' (ih hopen.2)
  | terminator ws => exact absurd List.mem_cons_self hopen

/-- A flag is typed in a word that has the form of one, and perhaps another word. -/
theorem TypedFlag.IsTyped.isFlag_of_mem_head? {f : TypedFlag} (h : f.IsTyped) :
    ∀ w ∈ (f.words ++ ws).head?, isFlag w = true := by
  cases f with
  | alone flag => simpa [words] using h.isFlag
  | withNext flag value => simpa [words] using h.1.isFlag
  | assigned name value => simpa [words] using isFlag_of_isLong (isLong_assigned name value)

/-- **A flag in the middle of a line** is read where it stands, with what is in front of it and
behind it read apart. -/
theorem partsOf_append_flag {before after : List String} {f : TypedFlag} (hopen : "--" ∉ before)
    (hf : f.IsTyped) (hends : f.Ends schema after) :
    partsOf schema (before ++ (f.words ++ after)) =
      partsOf schema before ++ f.part :: partsOf schema after := by
  obtain ⟨front, hfront⟩ := exists_reads schema before
  obtain ⟨back, hback⟩ := exists_reads schema after
  have hread := hfront.append hopen (.flag hf hends hback) hf.isFlag_of_mem_head?
  rw [← hread.map_part, ← hfront.map_part, ← hback.map_part, List.map_append, List.map_cons,
    Piece.part]

theorem flagName_long (name : String) : flagName ("--" ++ name) = flagName name := by
  simp [flagName, dropDashes, String.toList_append]

theorem flagName_of_undashed {name : String} (h : Undashed name) : flagName name = name := by
  rw [flagName, dropDashes_of_undashed h, String.ofList_toList]

theorem isLong_long (name : String) : isLong ("--" ++ name) = true := by
  simp [isLong, String.toList_append]

/-- Two dashes and a name make a flag without a value of its own. -/
theorem isUnassigned_long {name : String} (hne : name ≠ "") (hequals : '=' ∉ name.toList) :
    IsUnassigned ("--" ++ name) where
  isFlag := isFlag_of_isLong (isLong_long name)
  ne_terminator := by
    intro h
    rw [← String.toList_inj, String.toList_append] at h
    exact hne (by simpa using h)
  unassigned := fun _ => by simpa [String.toList_append] using hequals

/-- A long flag wants a value unless the schema says that it takes none. -/
theorem wantsValue_long {name : String} (hundashed : Undashed name)
    (hschema : ∀ s, schema = some s → s.get? name ≠ some false) :
    wantsValue schema ("--" ++ name) = true := by
  rw [wantsValue, flagName_long, flagName_of_undashed hundashed, isLong_long]
  cases schema with
  | none => rfl
  | some s =>
    cases hget : s.get? name with
    | none => simp [hget]
    | some takes =>
      cases takes with
      | true => simp [hget]
      | false => exact absurd hget (hschema s rfl)

end CommandLine

namespace ParsedLine

open CommandLine

variable {schema : Option FlagSchema}

/-- What a line shows of its parts: the word that each is, what it binds, and whether the
subcommands end at it. -/
def views (hasSchema : Bool) (parts : List Part) :
    List (Option String × Option (String × FlagValue) × Bool) :=
  parts.map fun p => (p.word?, p.flag?, p.endsSubcommands hasSchema)

/-- Which words are subcommands depends on what each part is as a word, and on whether the
subcommands end at it. -/
theorem words_ofParts_congr {hasSchema : Bool} {parts parts' : List Part}
    (h : parts.map (fun p => (p.word?, p.endsSubcommands hasSchema)) =
      parts'.map fun p => (p.word?, p.endsSubcommands hasSchema)) (command : String) :
    (ofParts hasSchema command parts).subcommands = (ofParts hasSchema command parts').subcommands ∧
      (ofParts hasSchema command parts).positionals =
        (ofParts hasSchema command parts').positionals := by
  have hshown : ∀ ps : List Part,
      (ofParts hasSchema command ps).subcommands =
          ((ps.map fun p => (p.word?, p.endsSubcommands hasSchema)).takeWhile
            fun v => !v.2).filterMap Prod.fst ∧
        (ofParts hasSchema command ps).positionals =
          ((ps.map fun p => (p.word?, p.endsSubcommands hasSchema)).dropWhile
            fun v => !v.2).filterMap Prod.fst := by
    intro ps
    simp [ofParts, List.takeWhile_map, List.dropWhile_map, List.filterMap_map, Function.comp_def]
  rw [(hshown parts).1, (hshown parts).2, h, (hshown parts').1, (hshown parts').2]
  exact ⟨rfl, rfl⟩

/-- **Parts that show the same make the same line.** -/
theorem ofParts_congr {hasSchema : Bool} {parts parts' : List Part}
    (h : views hasSchema parts = views hasSchema parts') (command : String) :
    ofParts hasSchema command parts = ofParts hasSchema command parts' := by
  have hwords : parts.map (fun p => (p.word?, p.endsSubcommands hasSchema)) =
      parts'.map fun p => (p.word?, p.endsSubcommands hasSchema) := by
    simpa [views, Function.comp_def] using congrArg (List.map fun v => (v.1, v.2.2)) h
  have hflags : parts.filterMap Part.flag? = parts'.filterMap Part.flag? := by
    simpa [views, List.filterMap_map, Function.comp_def] using
      congrArg (List.filterMap fun v => v.2.1) h
  obtain ⟨hsubcommands, hpositionals⟩ := words_ofParts_congr hwords command
  rw [ParsedLine.mk.injEq]
  exact ⟨rfl, hsubcommands, congrArg OrderedMap.ofList hflags, hpositionals⟩

/-- **A value behind an equals sign is the value in the next word**: lines that differ in this
alone are read as the same. -/
theorem ofLine_assigned (schema : Option FlagSchema)
    {line line' command name value : String} {before after : List String}
    (hne : name ≠ "") (hundashed : Undashed name) (hequals : '=' ∉ name.toList)
    (hvalue : isFlag value = false) (hopen : "--" ∉ before)
    (hschema : ∀ s, schema = some s → s.get? name ≠ some false)
    (hline : words? (Text.trim line) =
      some (command :: (before ++ ("--" ++ name ++ "=" ++ value) :: after)))
    (hline' : words? (Text.trim line') =
      some (command :: (before ++ ("--" ++ name) :: value :: after))) :
    ofLine schema line = ofLine schema line' := by
  have hassigned : partsOf schema (before ++ ("--" ++ name ++ "=" ++ value) :: after) =
      partsOf schema before ++ .inline (flagName name) value :: partsOf schema after :=
    partsOf_append_flag (f := .assigned name value) hopen hequals trivial
  have hseparate : partsOf schema (before ++ ("--" ++ name) :: value :: after) =
      partsOf schema before ++ .separate (flagName ("--" ++ name)) value :: partsOf schema after :=
    partsOf_append_flag (f := .withNext ("--" ++ name) value) hopen
      ⟨isUnassigned_long hne hequals, hvalue⟩ (wantsValue_long hundashed hschema)
  rw [ofLine_eq_ofParts hline, ofLine_eq_ofParts hline', hassigned, hseparate, flagName_long]
  exact ofParts_congr (by simp [views, Part.word?, Part.flag?, Part.endsSubcommands]) command

/-- A negative number is given in both ways, to a flag that the schema knows, between a word and
another flag. -/
theorem offset_given_in_both_ways :
    let schema : Option FlagSchema := some (.ofList [("offset", true), ("q", false)])
    let before := ["run"]
    let after := ["-q", "node"]
    words? (Text.trim "tool run --offset=-5 -q node") =
      some ("tool" :: (before ++ ("--" ++ "offset" ++ "=" ++ "-5") :: after)) ∧
    words? (Text.trim "tool run --offset -5 -q node") =
      some ("tool" :: (before ++ ("--" ++ "offset") :: "-5" :: after)) ∧
    isFlag "-5" = false ∧ "--" ∉ before ∧
    (∀ s, schema = some s → s.get? "offset" ≠ some false) ∧
    ofLine schema "tool run --offset=-5 -q node" = ofLine schema "tool run --offset -5 -q node" := by
  intro schema before after
  have hline : words? (Text.trim "tool run --offset=-5 -q node") =
      some ("tool" :: (before ++ ("--" ++ "offset" ++ "=" ++ "-5") :: after)) := by decide
  have hline' : words? (Text.trim "tool run --offset -5 -q node") =
      some ("tool" :: (before ++ ("--" ++ "offset") :: "-5" :: after)) := by decide
  have hundashed : Undashed "offset" := by
    unfold Undashed
    decide
  have hopen : "--" ∉ before := by decide
  have hschema : ∀ s, schema = some s → s.get? "offset" ≠ some false := by
    intro s hs
    obtain rfl := Option.some.inj hs
    decide
  exact ⟨hline, hline', by decide, hopen, hschema,
    ofLine_assigned schema (by decide) hundashed (by decide) (by decide) hopen hschema hline hline'⟩

end ParsedLine

end ClusterTutor
