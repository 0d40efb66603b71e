import ClusterTutor.Proofs.CommandLine.AttachedValues
import ClusterTutor.Proofs.CommandLine.Flags
import ClusterTutor.Proofs.Definition.Options
import ClusterTutor.Session.Line

/-!
# Flags as they are checked and as they are read

Whether a flag may be typed is decided by its token. Whether it takes the word behind it is
looked up in the schema, which has tokens for keys, under its *name*, which is the flag without
its dashes only: an equals sign at the end of a flag with one dash stays. So a flag may be valid
and yet be read by a guess, or as another flag.

This module says for which flags both come to the same
(`ClusterTutor.Definition.NamesLikeToken`). They are those whose names do not end with an equals
sign, and those for which the detour makes no difference; for them, and for no others, a word
behind a valid flag is taken exactly if the flag is declared to take a value
(`ClusterTutor.ParsedLine.taking_iff_declared_iff`). A declared flag may lose its value to the
words of the line otherwise (`ClusterTutor.ParsedLine.paddedFlag_loses_value`).
-/

namespace ClusterTutor

/-- **A name is looked up like its token** if it is its token, or if what the schema says of the
name, or what is guessed of it, is what the schema says of the token. It is guessed that a short
flag takes a value if its name is a single character. -/
def Definition.NamesLikeToken (d : Definition) (name : String) : Prop :=
  ¬EndsWithEquals name ∨
    d.schema.get? (tokenOf name) = some ((d.schema.get? name).getD (name == "="))

namespace CommandLine

variable {flag : String}

theorem endsWithEquals_iff_of_length_eq_one {s : String} (h : EndsWithEquals s) :
    s.length = 1 ↔ s = "=" := by
  constructor
  · intro hlength
    rw [← String.length_toList, List.length_eq_one_iff] at hlength
    obtain ⟨c, hc⟩ := hlength
    have hlast : c = '=' := by simpa [EndsWithEquals, hc] using h
    rw [← String.toList_inj, hc, hlast]
    rfl
  · rintro rfl
    rfl

/-- A flag without a value of its own whose name ends with an equals sign is a short one. -/
theorem IsUnassigned.isLong_eq_false (h : IsUnassigned flag)
    (hname : EndsWithEquals (flagName flag)) : isLong flag = false := by
  have hmem : '=' ∈ flag.toList := by
    have hlast : (dropDashes flag).getLast? = some '=' := by
      simpa [EndsWithEquals, flagName] using hname
    exact (List.dropWhile_sublist _).subset (List.mem_of_getLast? hlast)
  rw [← Bool.not_eq_true]
  exact fun hlong => h.unassigned hlong hmem

/-- **A valid flag wants a value as it is declared** exactly if its name is looked up like its
token. -/
theorem wantsValue_iff_declared_iff {d : Definition} (h : IsUnassigned flag)
    (hvalid : d.checkFlag (flagName flag) = .valid) :
    (wantsValue d.schema? flag = true ↔ d.schema.get? (tokenOf (flagName flag)) = some true) ↔
      d.NamesLikeToken (flagName flag) := by
  obtain ⟨takes, htakes⟩ := Definition.exists_get?_schema ((d.checkFlag_eq_valid_iff _).1 hvalid)
  have hwants : wantsValue d.schema? flag =
      (d.schema.get? (flagName flag)).getD (isLong flag || (flagName flag).length == 1) := by
    rw [wantsValue, Definition.schema?_bind_get?]
  rw [Definition.NamesLikeToken, hwants, htakes]
  by_cases hequals : EndsWithEquals (flagName flag)
  · have hguess : (isLong flag || (flagName flag).length == 1) = (flagName flag == "=") := by
      rw [h.isLong_eq_false hequals, Bool.false_or, Bool.eq_iff_iff, beq_iff_eq, beq_iff_eq]
      exact endsWithEquals_iff_of_length_eq_one hequals
    rw [hguess]
    cases takes <;> simp [hequals]
  · have htoken : tokenOf (flagName flag) = flagName flag :=
      (tokenOf_eq_self_iff (undashed_flagName flag)).2 hequals
    rw [htoken] at htakes
    simp [hequals, htakes]

end CommandLine

namespace ParsedLine

open CommandLine

/-! ### The word behind a flag -/

variable {schema : Option FlagSchema} {line command flag next : String} {before after : List String}

/-- **A flag in front of a word**, somewhere in a line: the flags have not ended, the flag has no
value of its own, and the word is no flag. -/
structure HasFlagBefore (line command : String) (before : List String) (flag next : String)
    (after : List String) : Prop where
  /-- These are the words of the line. -/
  words : words? (Text.trim line) = some (command :: (before ++ flag :: next :: after))
  /-- The flags have not ended. -/
  opened : "--" ∉ before
  /-- The flag has no value of its own. -/
  unassigned : IsUnassigned flag
  /-- The word is no flag. -/
  isWord : isFlag next = false

/-- The line of which a flag takes the word behind it. -/
def taking (schema : Option FlagSchema) (command : String) (before : List String)
    (flag next : String) (after : List String) : ParsedLine :=
  ofParts schema.isSome command
    (partsOf schema before ++ .separate (flagName flag) next :: partsOf schema after)

/-- The line of which the word behind a flag is one of the words. -/
def leaving (schema : Option FlagSchema) (command : String) (before : List String)
    (flag next : String) (after : List String) : ParsedLine :=
  ofParts schema.isSome command
    (partsOf schema before ++ .bare (flagName flag) :: .word next :: partsOf schema after)

theorem words_ofParts (hasSchema : Bool) (command : String) (parts : List Part) :
    (ofParts hasSchema command parts).words = parts.filterMap Part.word? := by
  rw [words, ofParts, ← List.filterMap_append, List.takeWhile_append_dropWhile]

theorem words_taking (schema : Option FlagSchema) (command : String) (before : List String)
    (flag next : String) (after : List String) :
    (taking schema command before flag next after).words =
      (partsOf schema before).filterMap Part.word? ++ (partsOf schema after).filterMap Part.word? := by
  simp [taking, words_ofParts, List.filterMap_cons, Part.word?]

theorem words_leaving (schema : Option FlagSchema) (command : String) (before : List String)
    (flag next : String) (after : List String) :
    (leaving schema command before flag next after).words =
      (partsOf schema before).filterMap Part.word? ++
        next :: (partsOf schema after).filterMap Part.word? := by
  simp [leaving, words_ofParts, List.filterMap_cons, Part.word?]

/-- A word that is left is one word more. -/
theorem taking_ne_leaving (schema : Option FlagSchema) (command : String) (before : List String)
    (flag next : String) (after : List String) :
    taking schema command before flag next after ≠ leaving schema command before flag next after := by
  intro h
  have hwords := congrArg (fun p : ParsedLine => p.words.length) h
  simp [words_taking, words_leaving] at hwords

/-- **A flag takes the word behind it if it wants a value**, wherever it stands. -/
theorem HasFlagBefore.ofLine_eq (h : HasFlagBefore line command before flag next after)
    (schema : Option FlagSchema) :
    ofLine schema line =
      if wantsValue schema flag = true then taking schema command before flag next after
      else leaving schema command before flag next after := by
  rw [ofLine_eq_ofParts h.words]
  split
  · rename_i hwants
    have htaken : partsOf schema (before ++ flag :: next :: after) =
        partsOf schema before ++ .separate (flagName flag) next :: partsOf schema after :=
      partsOf_append_flag (f := .withNext flag next) h.opened ⟨h.unassigned, h.isWord⟩ hwants
    rw [htaken, taking]
  · rename_i hwants
    have hends : (TypedFlag.alone flag).Ends schema (next :: after) := fun _ _ _ => by
      simpa using hwants
    have hleft : partsOf schema (before ++ flag :: next :: after) =
        partsOf schema before ++ .bare (flagName flag) :: partsOf schema (next :: after) :=
      partsOf_append_flag (f := .alone flag) h.opened h.unassigned hends
    rw [hleft, partsOf_word h.isWord, leaving]

/-- **A valid flag takes the word behind it as it is declared, exactly if its name is looked up
like its token.** Either the flag takes the word or the word is one more of the words of the
line; the first happens exactly if the schema says so of the token, for all flags with names that
do not end with an equals sign, and for others only where the look-up under the whole name comes
to the same. -/
theorem taking_iff_declared_iff (d : Definition)
    (h : HasFlagBefore line command before flag next after)
    (hvalid : d.checkFlag (flagName flag) = .valid) :
    (ofLine d.schema? line = taking d.schema? command before flag next after ∨
      ofLine d.schema? line = leaving d.schema? command before flag next after) ∧
    taking d.schema? command before flag next after ≠
      leaving d.schema? command before flag next after ∧
    ((ofLine d.schema? line = taking d.schema? command before flag next after ↔
        d.schema.get? (tokenOf (flagName flag)) = some true) ↔
      d.NamesLikeToken (flagName flag)) := by
  have hne := taking_ne_leaving d.schema? command before flag next after
  have hread := h.ofLine_eq d.schema?
  have htakes : ofLine d.schema? line = taking d.schema? command before flag next after ↔
      wantsValue d.schema? flag = true := by
    rw [hread]
    split
    · simp [*]
    · simp [*, hne.symm]
  refine ⟨?_, hne, ?_⟩
  · rw [hread]
    split
    · exact Or.inl rfl
    · exact Or.inr rfl
  · rw [htakes]
    exact wantsValue_iff_declared_iff h.unassigned hvalid

/-! ### A value that is kept, and one that is lost -/

/-- The record of a tool with one flag, which takes a value. -/
def wattsRecord : Value :=
  .object [
    ("command", .string "powercap"),
    ("global_options", .array [
      .object [("short", .string "-p"), ("arguments", .string "WATTS")]])]

/-- The definition of the tool. -/
def wattsTool : Definition where
  command := "powercap"
  synopsis := "powercap"
  options := [{ short := some "-p", arguments := some "WATTS" }]

/-- Between two words the flag takes its value. -/
theorem plainFlag_keeps_value :
    HasFlagBefore "powercap set -p 300 gpu0" "powercap" ["set"] "-p" "300" ["gpu0"] ∧
    wattsTool.checkFlag (flagName "-p") = .valid ∧
    ofLine wattsTool.schema? "powercap set -p 300 gpu0" =
      taking wattsTool.schema? "powercap" ["set"] "-p" "300" ["gpu0"] := by
  have hflag : HasFlagBefore "powercap set -p 300 gpu0" "powercap" ["set"] "-p" "300" ["gpu0"] :=
    ⟨by decide, by decide, ⟨by decide, by decide, by decide⟩, by decide⟩
  have hvalid : wattsTool.checkFlag (flagName "-p") = .valid :=
    (wattsTool.checkFlag_eq_valid_iff _).2 (by decide)
  have hnames : wattsTool.NamesLikeToken (flagName "-p") := by
    refine Or.inl ?_
    unfold EndsWithEquals
    decide
  obtain ⟨-, -, hiff⟩ := taking_iff_declared_iff wattsTool hflag hvalid
  exact ⟨hflag, hvalid, (hiff.2 hnames).2 (by decide)⟩

/-- **A value that is lost.** With an equals sign at its end the flag is valid, and its token is
declared to take a value. The line is accepted; the flag is bound to nothing, and its value is
one of the words. -/
theorem paddedFlag_loses_value :
    Definition.ofValue wattsRecord = .ok wattsTool ∧
    HasFlagBefore "powercap -p= 300" "powercap" [] "-p=" "300" [] ∧
    wattsTool.checkFlag (flagName "-p=") = .valid ∧
    wattsTool.schema.get? (tokenOf (flagName "-p=")) = some true ∧
    Session.rejectedWord? (.ofDefinitions [wattsTool]) wattsTool
      (ofLine wattsTool.schema? "powercap -p= 300") = none ∧
    (ofLine wattsTool.schema? "powercap -p= 300").flags.get? "p=" = some .present ∧
    (ofLine wattsTool.schema? "powercap -p= 300").positionals = ["300"] ∧
    ofLine wattsTool.schema? "powercap -p= 300" ≠
      taking wattsTool.schema? "powercap" [] "-p=" "300" [] := by
  have hflag : HasFlagBefore "powercap -p= 300" "powercap" [] "-p=" "300" [] :=
    ⟨by decide, by decide, ⟨by decide, by decide, by decide⟩, by decide⟩
  have hleft : ofLine wattsTool.schema? "powercap -p= 300" =
      leaving wattsTool.schema? "powercap" [] "-p=" "300" [] := by
    rw [hflag.ofLine_eq, if_neg (by decide)]
  rw [hleft]
  exact ⟨rfl, hflag, (wattsTool.checkFlag_eq_valid_iff _).2 (by decide), by decide, rfl, rfl, rfl,
    (taking_ne_leaving _ _ _ _ _ _).symm⟩

end ParsedLine

end ClusterTutor
