import ClusterTutor.Program
import ClusterTutor.Proofs.CommandLine.Words
import ClusterTutor.Proofs.Session.ShownNumbers
import ClusterTutor.Proofs.Session.Traces

/-!
# Lines that have no outcome

A line has an outcome, whatever is typed – but for one kind of line. A word that a write takes
as its value is looked at twice: by its form it is a whole number, and then it is read as
one, which is refused beyond a number of digits. Nothing catches the refusal. It comes
before the engine is asked, so it makes no difference who is acting. And the engine does not
fail after that, since all that a line supplies can be shown.

This module says which lines these are (`ClusterTutor.Catalogue.RunsOverlong`), and that all
others have an outcome (`ClusterTutor.Session.fails_iff_runsOverlong`). That an outcome can
also be shown is in `ClusterTutor.Proofs.Session.ShownNumbers`.
-/

namespace ClusterTutor

namespace Invocation

/-- The word that a write takes as its value, if it takes one: what is given with the first of
its flags that is there, and without any of them the first ordinary word after the
subcommand. -/
def takenWord? (needed : List String) (flags : OrderedMap String FlagValue)
    (words : List String) : Option String :=
  match needed.findSome? flags.get? with
  | some (.given s) => some s
  | some .present => none
  | none => words.head?

variable {needed words : List String} {flags : OrderedMap String FlagValue}
  {fault : Numeral.Fault}

theorem effectValue_eq (needed : List String) (flags : OrderedMap String FlagValue)
    (words : List String) :
    effectValue needed flags words =
      (takenWord? needed flags words).elim (.ok (.bool true)) valueOfWord := by
  unfold effectValue takenWord?
  cases needed.findSome? flags.get? with
  | some given => cases given <;> rfl
  | none => cases words <;> rfl

/-- **A word has no value exactly if it is an overlong number.** -/
theorem valueOfWord_eq_error_iff {w : String} :
    valueOfWord w = .error fault ↔ fault = .tooLong ∧ Numeral.IsOverlong w := by
  unfold valueOfWord Numeral.IsOverlong
  split
  · rename_i hinteger
    have hread : Numeral.readInt w = .error fault ↔
        fault = .tooLong ∧ Numeral.digitLimit < Numeral.digitCount w :=
      Numeral.readInt_eq_error_iff hinteger
    cases hw : Numeral.readInt w with
    | ok n =>
      rw [hw] at hread
      simpa [Except.map, hinteger] using hread
    | error fault' =>
      rw [hw] at hread
      simpa [Except.map, hinteger] using hread
  · rename_i hword
    simp [hword]

theorem effectValue_eq_error_iff :
    effectValue needed flags words = .error fault ↔
      fault = .tooLong ∧ ∃ w ∈ takenWord? needed flags words, Numeral.IsOverlong w := by
  rw [effectValue_eq]
  cases takenWord? needed flags words with
  | none => simp
  | some w => simp [valueOfWord_eq_error_iff]

/-- Writes have no values exactly if one that applies takes an overlong number. -/
theorem effectValues_eq_error_iff {es : List Effect} (values : OrderedMap String Value) :
    effectValues flags words es values = .error fault ↔
      fault = .tooLong ∧ ∃ e ∈ es, e.applies flags.keys = true ∧
        ∃ w ∈ takenWord? (e.flags.getD []) flags words, Numeral.IsOverlong w := by
  induction es generalizing values with
  | nil => simp [effectValues]
  | cons e es ih =>
    unfold effectValues
    cases happ : e.applies flags.keys with
    | false => simp [happ, ih]
    | true =>
      have hvalue : ∀ fault', effectValue (e.flags.getD []) flags words = .error fault' ↔
          fault' = .tooLong ∧ ∃ w ∈ takenWord? (e.flags.getD []) flags words,
            Numeral.IsOverlong w := fun _ => effectValue_eq_error_iff
      cases hv : effectValue (e.flags.getD []) flags words with
      | error fault' =>
        obtain ⟨rfl, htaken⟩ := (hvalue fault').1 hv
        have hhead : ∃ e' ∈ e :: es, e'.applies flags.keys = true ∧
            ∃ w ∈ takenWord? (e'.flags.getD []) flags words, Numeral.IsOverlong w :=
          ⟨e, List.mem_cons_self, happ, htaken⟩
        simp only [hhead, and_true, if_true, Except.error.injEq]
        exact eq_comm
      | ok v =>
        have hfine : ¬∃ w ∈ takenWord? (e.flags.getD []) flags words, Numeral.IsOverlong w := by
          intro htaken
          have herror := (hvalue .tooLong).2 ⟨rfl, htaken⟩
          rw [hv] at herror
          cases herror
        simp only [if_true, ih, List.exists_mem_cons_iff, hfine, and_false, false_or]

end Invocation

/-- **A line takes an overlong number**: a write of the command that applies to the flags takes
one as its value. -/
def Definition.TakesOverlong (d : Definition) (p : ParsedLine) : Prop :=
  ∃ e ∈ d.writes, e.applies p.flags.keys = true ∧
    ∃ w ∈ Invocation.takenWord? (e.flags.getD []) p.flags (Invocation.splitWords d p).2,
      Numeral.IsOverlong w

theorem Invocation.ofLine_eq_error_iff {d : Definition} {p : ParsedLine} {fault : Numeral.Fault} :
    ofLine d p = .error fault ↔ fault = .tooLong ∧ d.TakesOverlong p := by
  rw [Definition.TakesOverlong, ← effectValues_eq_error_iff .empty]
  unfold ofLine
  cases hvalues : effectValues p.flags (splitWords d p).2 d.writes .empty <;>
    simp [hvalues, bind, Except.bind, pure, Except.pure]

namespace Session

/-- The line that a typed line runs as a command: itself, or what stands after `sudo`; nothing
if it is blank or a built-in answers it. -/
def commandLine? (line : String) : Option String :=
  let trimmed := Text.trim line
  let command := (ParsedLine.ofLine none trimmed).command
  if command = "" ∨ isBuiltIn trimmed = true then none
  else if command = "sudo" then
    if sudoRest trimmed = "" then none else some (sudoRest trimmed)
  else some trimmed

end Session

/-- **A line runs a command with an overlong number**: the command is known, its words are
declared, and a write takes such a number as its value. -/
def Catalogue.RunsOverlong (c : Catalogue) (line : String) : Prop :=
  ∃ typed d, Session.commandLine? line = some typed ∧
    c.get? (ParsedLine.ofLine none typed).command = some d ∧
    Session.rejectedWord? c d (ParsedLine.ofLine d.schema? typed) = none ∧
    d.TakesOverlong (ParsedLine.ofLine d.schema? typed)

namespace Session

variable {t : Tutor} {s : Session} {line : String}

/-- **A command has no outcome exactly if it takes an overlong number**, whoever runs it. -/
theorem runCommand_eq_error_iff (t : Tutor) (s : Session) (line : String)
    (acting : ExecutionContext) (tracked : String) (fault : LineFault) :
    (runCommand t s line acting tracked).outcome = .error fault ↔
      fault = .numeral .tooLong ∧
        ∃ d, t.catalogue.get? (ParsedLine.ofLine none line).command = some d ∧
        rejectedWord? t.catalogue d (ParsedLine.ofLine d.schema? line) = none ∧
        d.TakesOverlong (ParsedLine.ofLine d.schema? line) := by
  cases hd : t.catalogue.get? (ParsedLine.ofLine none line).command with
  | none => simp [runCommand, hd, failed]
  | some d =>
    cases hword : rejectedWord? t.catalogue d (ParsedLine.ofLine d.schema? line) with
    | some o => simp [runCommand, hd, hword, failed]
    | none =>
      cases hi : Invocation.ofLine d (ParsedLine.ofLine d.schema? line) with
      | error fault' =>
        obtain ⟨rfl, htakes⟩ := Invocation.ofLine_eq_error_iff.1 hi
        simpa [runCommand, hd, hword, hi, htakes] using eq_comm
      | ok i =>
        have hfine : ¬d.TakesOverlong (ParsedLine.ofLine d.schema? line) := by
          intro htakes
          have herror := Invocation.ofLine_eq_error_iff.2 ⟨rfl, htakes⟩
          rw [hi] at herror
          cases herror
        obtain ⟨answer, hanswer⟩ := Engine.exists_answer_of_showable s.engine acting
          (ParsedLine.ofLine none line).command (Invocation.showable_of_ofLine hi)
        rcases hatt : s.engine.attempt acting (ParsedLine.ofLine none line).command i with
          ⟨engine, outcome⟩
        obtain rfl : outcome = .ok answer := by rwa [hatt] at hanswer
        cases answer with
        | error denial => simp [runCommand, hd, hword, hi, hatt, failed, hfine]
        | ok x => simp [runCommand, hd, hword, hi, hatt, hfine]

/-- A line runs the command that it is said to, or it executes nothing and has an outcome. -/
theorem runLine_cases (t : Tutor) (s : Session) (line : String) :
    (commandLine? line = none ∧ s.executes t line = false ∧
      ∃ o, (runLine t s line).outcome = .ok o) ∨
    ∃ typed, commandLine? line = some typed ∧
      runLine t s line =
        runCommand t (s.typing line) typed (s.lineActor line) (Text.trim line) := by
  by_cases hblank : Text.trim line = ""
  · have hcommand : commandLine? line = none := by
      have hnone : (ParsedLine.ofLine none "").command = "" := rfl
      simp [commandLine?, hblank, hnone]
    have hrun : runLine t s line = ⟨t, s, .ok { status := .empty }⟩ := runLine_of_blank t s hblank
    exact Or.inl ⟨hcommand, by simp [executes, hrun, Run.endsWell], by simp [hrun]⟩
  have hrun : runLine t s line = runTrimmed t (s.typing line) (Text.trim line) := by
    simp [runLine, hblank, typing]
  rw [executes, hrun]
  -- The exits of a line, in the order in which they are tried.
  by_cases hwords : (ParsedLine.ofLine none (Text.trim line)).command = ""
  · refine Or.inl ⟨by simp [commandLine?, hwords], ?_⟩
    simp [runTrimmed, hwords, failed, Run.endsWell]
  by_cases hhelp : (ParsedLine.ofLine none (Text.trim line)).command = "help"
  · exact Or.inl ⟨by simp [commandLine?, isBuiltIn, hhelp], by simp [isBuiltIn, hhelp],
      by simp [runTrimmed, hhelp, answered]⟩
  by_cases hwho : (ParsedLine.ofLine none (Text.trim line)).command = "whoami"
  · exact Or.inl ⟨by simp [commandLine?, isBuiltIn, hwho], by simp [isBuiltIn, hwho],
      by simp [runTrimmed, hwho, answered]⟩
  by_cases hsudo : (ParsedLine.ofLine none (Text.trim line)).command = "sudo"
  · by_cases hrest : sudoRest (Text.trim line) = ""
    · refine Or.inl ⟨by simp [commandLine?, hsudo, hrest], ?_⟩
      rw [sudoRest] at hrest
      simp [runTrimmed, hsudo, hrest, failed, Run.endsWell]
    by_cases hroot : (ParsedLine.ofLine none (sudoRest (Text.trim line))).command = "whoami"
    · refine Or.inl ⟨by simp [commandLine?, isBuiltIn, hsudo, hroot],
        by simp [isBuiltIn, hsudo, hroot], ?_⟩
      rw [sudoRest] at hrest hroot
      simp [runTrimmed, hsudo, hrest, hroot, answered]
    · refine Or.inr ⟨sudoRest (Text.trim line), ?_, ?_⟩
      · simp [commandLine?, isBuiltIn, hsudo, hrest, hroot]
      · rw [sudoRest] at hrest hroot ⊢
        simp [runTrimmed, hsudo, hrest, hroot, typing, lineActor]
  · refine Or.inr ⟨Text.trim line, ?_, ?_⟩
    · simp [commandLine?, isBuiltIn, hwords, hhelp, hwho, hsudo]
    · simp [runTrimmed, hwords, hhelp, hwho, hsudo, typing, lineActor]

theorem runLine_eq_error_iff (t : Tutor) (s : Session) (line : String) (fault : LineFault) :
    (runLine t s line).outcome = .error fault ↔
      fault = .numeral .tooLong ∧ t.catalogue.RunsOverlong line := by
  unfold Catalogue.RunsOverlong
  rcases runLine_cases t s line with ⟨hnone, -, o, ho⟩ | ⟨typed, hsome, hrun⟩
  · simp [hnone, ho]
  · simp [hsome, hrun, runCommand_eq_error_iff]

/-- **A line has no outcome exactly if it runs a command with an overlong number.** In a
session after any calls, running a line fails in that case and no other, whoever is acting.
And all numbers in the state afterwards can be shown, if no lab has set one that cannot: what
a message says of numbers is what is written to this state, or read from it. -/
theorem fails_iff_runsOverlong (opened : Tutor) (profile : ProfileNumber) (clock : Magnitude)
    (cs : List (Tutor × SessionCall)) (hcs : ∀ c ∈ cs, c.2.Showable) (t : Tutor)
    (line : String) :
    (∀ fault, (runLine t ((start opened profile clock).calls cs) line).outcome = .error fault ↔
      fault = .numeral .tooLong ∧ t.catalogue.RunsOverlong line) ∧
    (runLine t ((start opened profile clock).calls cs) line).session.state.Showable := by
  refine ⟨fun fault => runLine_eq_error_iff _ _ _ _, ?_⟩
  exact (((showable_start opened profile clock).calls hcs).runLine t line).state

/-! ### A line with a long number -/

/-- A number of ones. -/
def ones (n : Nat) : String := String.ofList (List.replicate n '1')

/-- The line that runs the diagnostics at a level of ones, which takes no privilege. -/
def levelLine (n : Nat) : String :=
  String.ofList ([' '].intercalate
    ["dcgmi".toList, "diag".toList, "-r".toList, List.replicate n '1'])

section Ones

variable {n : Nat} (hn : 0 < n)

include hn

theorem isOverlong_ones : Numeral.IsOverlong (ones n) ↔ Numeral.digitLimit < n := by
  obtain ⟨m, rfl⟩ := Nat.exists_eq_add_of_lt hn
  have hone : Text.isDecimalDigit '1' = true := by decide
  have hinteger : Numeral.isInteger (ones (0 + m + 1)) = true := by
    simp [Numeral.isInteger, ones, List.replicate_succ, hone]
  have hcount : Numeral.digitCount (ones (0 + m + 1)) = 0 + m + 1 := by
    simp [Numeral.digitCount, ones, List.countP_replicate, hone]
  simp only [Numeral.IsOverlong, hinteger, hcount, true_and]

theorem trim_levelLine : Text.trim (levelLine n) = levelLine n := by
  have hd : Text.isBlank 'd' = false := by decide
  have hone : Text.isBlank '1' = false := by decide
  have hline : (levelLine n).toList = "dcgmi diag -r ".toList ++ List.replicate n '1' := by
    simp [levelLine, List.intercalate_cons_cons]
  have hfront : (levelLine n).toList.dropWhile Text.isBlank = (levelLine n).toList := by
    simp [hline, hd]
  have hback : (levelLine n).toList.reverse.dropWhile Text.isBlank =
      (levelLine n).toList.reverse := by
    obtain ⟨m, rfl⟩ := Nat.exists_eq_add_of_lt hn
    rw [hline, List.reverse_append, List.reverse_replicate, List.replicate_succ, List.cons_append,
      List.dropWhile_cons_of_neg (by simp [hone])]
  rw [Text.trim, Text.trimList, hfront, Text.trimRight, hback, List.reverse_reverse,
    String.ofList_toList]

theorem ofLine_levelLine (schema : Option FlagSchema) :
    ParsedLine.ofLine schema (levelLine n) =
      ParsedLine.ofParts schema.isSome "dcgmi"
        (CommandLine.partsOf schema ["diag", "-r", ones n]) := by
  have hwords : CommandLine.words? (levelLine n) = some ["dcgmi", "diag", "-r", ones n] := by
    have hreplicate : List.replicate n '1' ≠ [] := by simpa using hn.ne'
    have hplain : ∀ c ∈ List.replicate n '1', CommandLine.isPlain c = true := by
      intro c hc
      rw [List.eq_of_mem_replicate hc]
      rfl
    rw [levelLine, CommandLine.words?_intercalate]
    · rfl
    · have hletters : ∀ w ∈ ["dcgmi".toList, "diag".toList, "-r".toList],
          w ≠ [] ∧ ∀ c ∈ w, CommandLine.isPlain c = true := by
        simp [CommandLine.isPlain, CommandLine.isSeparator]
      have hwords : ∀ w ∈ ["dcgmi".toList, "diag".toList, "-r".toList] ++ [List.replicate n '1'],
          w ≠ [] ∧ ∀ c ∈ w, CommandLine.isPlain c = true :=
        List.forall_mem_append.2 ⟨hletters, List.forall_mem_singleton.2 ⟨hreplicate, hplain⟩⟩
      exact hwords
  rw [ParsedLine.ofLine, trim_levelLine hn, hwords]
  rfl

/-- The diagnostics take the level as the value of their flag. -/
theorem ofLine_schema_levelLine :
    ParsedLine.ofLine Content.dcgmi.schema? (levelLine n) =
      { command := "dcgmi"
        subcommands := ["diag"]
        flags := .ofList [("r", .given (ones n))] } := by
  have hdigits : CommandLine.isFlag (ones n) = false := by
    obtain ⟨m, rfl⟩ := Nat.exists_eq_add_of_lt hn
    simp [CommandLine.isFlag, ones, List.replicate_succ]
  have hparts : CommandLine.partsOf Content.dcgmi.schema? ["diag", "-r", ones n] =
      [.word "diag", .separate "r" (ones n)] := by
    have hdiag : CommandLine.isFlag "diag" = false := by decide +kernel
    have hr : CommandLine.isFlag "-r" = true := by decide +kernel
    have hinline : CommandLine.inlineValue? "-r" = none := by decide +kernel
    have hname : CommandLine.flagName "-r" = "r" := by decide +kernel
    have hschema : (Content.dcgmi.schema?.bind (·.get? "r")) = some true := by decide +kernel
    simp [CommandLine.partsOf, hdiag, hr, hinline, hname, CommandLine.takesNext, hdigits, hschema]
  rw [ofLine_levelLine hn, hparts]
  rfl

/-- **The line of a level runs an overlong number exactly if it is one.** -/
theorem runsOverlong_levelLine :
    Catalogue.standard.RunsOverlong (levelLine n) ↔ Numeral.digitLimit < n := by
  have hcommand : (ParsedLine.ofLine none (levelLine n)).command = "dcgmi" := by
    rw [ofLine_levelLine hn]
    rfl
  have htyped : commandLine? (levelLine n) = some (levelLine n) := by
    simp [commandLine?, trim_levelLine hn, isBuiltIn, hcommand]
  have hget : Catalogue.standard.get? "dcgmi" = some Content.dcgmi := rfl
  have hwords : rejectedWord? Catalogue.standard Content.dcgmi
      (ParsedLine.ofLine Content.dcgmi.schema? (levelLine n)) = none := by
    have hkeys : (OrderedMap.ofList [("r", FlagValue.given (ones n))]).keys = ["r"] := rfl
    have hdiag : (Catalogue.standard.checkSubcommand "dcgmi" "diag").accepts = true := by
      decide +kernel
    have hr : (Catalogue.standard.checkFlag "dcgmi" "r").accepts = true := by decide +kernel
    have hname : Content.dcgmi.command = "dcgmi" := rfl
    rw [ofLine_schema_levelLine hn]
    simp [rejectedWord?, hkeys, hname, hdiag, hr]
  have htakes : Content.dcgmi.TakesOverlong
      (ParsedLine.ofLine Content.dcgmi.schema? (levelLine n)) ↔ Numeral.IsOverlong (ones n) := by
    have hwrites : Content.dcgmi.writes =
        [{ domain := "diagnostics", fields := ["last_run_level"], flags := some ["r"] }] := rfl
    have hkeys : (OrderedMap.ofList [("r", FlagValue.given (ones n))]).keys = ["r"] := rfl
    have hgiven : (OrderedMap.ofList [("r", FlagValue.given (ones n))]).get? "r" =
        some (.given (ones n)) := rfl
    have happlies : Effect.applies
        { domain := "diagnostics", fields := ["last_run_level"], flags := some ["r"] } ["r"] =
          true := by decide
    rw [ofLine_schema_levelLine hn]
    simp [Definition.TakesOverlong, hwrites, hkeys, happlies, Invocation.takenWord?, hgiven]
  rw [← isOverlong_ones hn, ← htakes]
  simp [Catalogue.RunsOverlong, htyped, hcommand, hget, hwords]

end Ones

/-- One digit too many: in a session that was just opened, a user's line has no outcome. -/
theorem overlong_level_fails :
    (runLine .standard (start .standard 1 (.whole 0)) (levelLine 4301)).outcome =
      .error (.numeral .tooLong) := by
  have hlong : Catalogue.standard.RunsOverlong (levelLine 4301) :=
    (runsOverlong_levelLine (by decide)).2 (by decide)
  exact (runLine_eq_error_iff _ _ _ _).2 ⟨rfl, hlong⟩

/-- One digit less, and the line has an outcome, also after another line. -/
theorem longest_level_has_outcome :
    ∃ o, (runLine .standard ((start .standard 1 (.whole 0)).calls
      [(.standard, .line "dcgmi diag -r 3")]) (levelLine 4300)).outcome = .ok o := by
  have hcalls : ∀ c ∈ [(Tutor.standard, SessionCall.line "dcgmi diag -r 3")], c.2.Showable := by
    simp [SessionCall.Showable]
  have hfails := (fails_iff_runsOverlong .standard 1 (.whole 0) _ hcalls .standard
    (levelLine 4300)).1
  have hshort : ¬Catalogue.standard.RunsOverlong (levelLine 4300) := by
    rw [runsOverlong_levelLine (by decide)]
    decide
  cases hrun : (runLine .standard ((start .standard 1 (.whole 0)).calls
      [(.standard, .line "dcgmi diag -r 3")]) (levelLine 4300)).outcome with
  | ok o => exact ⟨o, rfl⟩
  | error fault => exact absurd ((hfails fault).1 hrun).2 hshort

end Session

end ClusterTutor
