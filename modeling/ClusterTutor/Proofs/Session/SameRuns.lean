import ClusterTutor.Program
import ClusterTutor.Proofs.CommandLine.Interleaving
import ClusterTutor.Proofs.Session.Overlong
import ClusterTutor.Proofs.Text.Squeeze

/-!
# Runs that come to the same

Lines that are typed differently may be run alike, and one line may be run in different sessions.
This module says on what the result of a run depends.

* **Which words are run, and by whom.** Unless a built-in answers it, a line runs its words as the
  actor of the session (`ClusterTutor.Session.runLine_of_command`), and behind `sudo` the words
  that are handed on as root (`ClusterTutor.Session.runLine_of_sudo`).
* **What comes of them.** Of a line count what the checks say of it, what it asks of the engine, and
  what is said of its execution; of the session count the commands, the state of the simulated
  system and the actor (`ClusterTutor.Session.runCommand_congr`). So a line may be typed in any way
  that gives the same words (`ClusterTutor.Session.runCommand_of_words`).
-/

namespace ClusterTutor

open CommandLine

theorem Engine.attempt_congr {e e' : Engine} (hcatalogue : e'.catalogue = e.catalogue)
    (hstate : e'.state = e.state) (context : ExecutionContext) (command : String) (i : Invocation) :
    (e'.attempt context command i).1.state = (e.attempt context command i).1.state ∧
      (e'.attempt context command i).2 = (e.attempt context command i).2 := by
  cases hd : e.catalogue.get? command with
  | none =>
    have hunknown (f : Engine) (hf : f.catalogue.get? command = none) :
        f.attempt context command i = (f, .ok (.error (.unknownCommand command))) :=
      attempt_of_denied (by rw [denial?, hf])
    rw [hunknown e hd, hunknown e' (hcatalogue ▸ hd)]
    exact ⟨hstate, rfl⟩
  | some d =>
    have hd' : e'.catalogue.get? command = some d := hcatalogue ▸ hd
    rw [attempt_of_get? hd, attempt_of_get? hd', hstate]
    cases d.denial? context i e.state with
    | some denial => exact ⟨hstate, rfl⟩
    | none =>
      simp only [perform, hstate]
      cases d.execution? context i e.state with
      | some x => exact ⟨rfl, rfl⟩
      | none => exact ⟨hstate, rfl⟩

namespace Session

/-- **Two runs come to the same**: the learner is told the same, and the state of the simulated
system is the same afterwards. -/
def Run.SameResult (r r' : Run) : Prop :=
  r.outcome = r'.outcome ∧ r.session.state = r'.session.state

variable {s s' : Session} {t : Tutor} {line line' w : String} {ws : List String}

/-! ### What a line runs -/

/-- **The words that `sudo` hands on**: those of what is left of the line without its first four
characters. -/
def handedOn (line : String) : Option (List String) :=
  words? (Text.trim (sudoRest (Text.trim line)))

theorem trim_sudoRest (line : String) : Text.trim (sudoRest line) = sudoRest line := by
  rw [Text.trim, sudoRest, String.toList_ofList, (Text.isTrimmed_trimList _).trimList_eq]

/-- The command of a line is its first word. -/
theorem command_ofLine (h : words? (Text.trim line) = some (w :: ws))
    (schema : Option FlagSchema) : (ParsedLine.ofLine schema line).command = w := by
  rw [ParsedLine.ofLine_eq_ofParts h, ParsedLine.ofParts]

theorem runLine_of_commandLine? (h : commandLine? line = some line') (t : Tutor) (s : Session) :
    runLine t s line = runCommand t (s.typing line) line' (s.lineActor line) (Text.trim line) := by
  rcases runLine_cases t s line with ⟨hnone, -⟩ | ⟨typed, hsome, hrun⟩
  · rw [hnone] at h
    exact absurd h (by simp)
  · rw [h] at hsome
    obtain rfl := Option.some.inj hsome
    exact hrun

/-- **A line that begins with no built-in** runs its words as the actor of the session. -/
theorem runLine_of_command (hwords : words? (Text.trim line) = some (w :: ws))
    (hw : w ∉ ["", "help", "whoami", "sudo"]) (t : Tutor) (s : Session) :
    runLine t s line =
      runCommand t (s.typing line) (Text.trim line) s.context (Text.trim line) := by
  simp only [List.mem_cons, List.not_mem_nil, or_false, not_or] at hw
  obtain ⟨hempty, hhelp, hwhoami, hsudo⟩ := hw
  have hcommand : (ParsedLine.ofLine none (Text.trim line)).command = w := by
    rw [← Text.trim_trim] at hwords
    exact command_ofLine hwords none
  have htyped : commandLine? line = some (Text.trim line) := by
    simp [commandLine?, isBuiltIn, hcommand, hempty, hhelp, hwhoami, hsudo]
  have hactor : s.lineActor line = s.context := by simp [lineActor, hcommand, hsudo]
  rw [runLine_of_commandLine? htyped, hactor]

/-- **A line that begins with `sudo`** runs as root the words that are handed on. -/
theorem runLine_of_sudo {ws' : List String}
    (hwords : words? (Text.trim line) = some ("sudo" :: ws'))
    (hhanded : handedOn line = some (w :: ws)) (hw : w ≠ "whoami") (t : Tutor) (s : Session) :
    runLine t s line = runCommand t (s.typing line) (sudoRest (Text.trim line)) s.context.elevated
      (Text.trim line) := by
  have hcommand : (ParsedLine.ofLine none (Text.trim line)).command = "sudo" := by
    rw [← Text.trim_trim] at hwords
    exact command_ofLine hwords none
  rw [handedOn] at hhanded
  have hinner := command_ofLine hhanded none
  have hrest : sudoRest (Text.trim line) ≠ "" := by
    intro hempty
    have hnone : words? (Text.trim "") = some [] := rfl
    rw [hempty, hnone] at hhanded
    exact absurd hhanded (by simp)
  have htyped : commandLine? line = some (sudoRest (Text.trim line)) := by
    simp [commandLine?, isBuiltIn, hcommand, hinner, hw, hrest]
  have hactor : s.lineActor line = s.context.elevated := by simp [lineActor, hcommand]
  rw [runLine_of_commandLine? htyped, hactor]

/-! ### What a run comes to -/

/-- **What a run comes to** depends on a line only through what the checks say of it, what it asks
of the engine, and what is said of its execution; and on the session only through the engine and
the actor. -/
theorem runCommand_congr {acting : ExecutionContext} (hstate : s'.state = s.state)
    (hcommand : (ParsedLine.ofLine none line').command = (ParsedLine.ofLine none line).command)
    (hrejected : ∀ d, t.catalogue.get? (ParsedLine.ofLine none line).command = some d →
      rejectedWord? t.catalogue d (ParsedLine.ofLine d.schema? line') =
        rejectedWord? t.catalogue d (ParsedLine.ofLine d.schema? line))
    (hattempt : ∀ d, t.catalogue.get? (ParsedLine.ofLine none line).command = some d →
      (Invocation.ofLine d (ParsedLine.ofLine d.schema? line')).map (fun i =>
          let r := s'.engine.attempt acting (ParsedLine.ofLine none line).command i
          (r.1.state, r.2)) =
        (Invocation.ofLine d (ParsedLine.ofLine d.schema? line)).map fun i =>
          let r := s.engine.attempt acting (ParsedLine.ofLine none line).command i
          (r.1.state, r.2))
    (hmessage : ∀ d, t.catalogue.get? (ParsedLine.ofLine none line).command = some d →
      ∀ state delta, executionMessage d (ParsedLine.ofLine d.schema? line') state delta =
        executionMessage d (ParsedLine.ofLine d.schema? line) state delta)
    (tracked tracked' : String) :
    (runCommand t s line acting tracked).SameResult (runCommand t s' line' acting tracked') ∧
      (s'.context = s.context → (runCommand t s line acting tracked).session.context =
        (runCommand t s' line' acting tracked').session.context) := by
  have hstate : s.engine.state = s'.engine.state := hstate.symm
  cases hd : t.catalogue.get? (ParsedLine.ofLine none line).command with
  | none => simp [Run.SameResult, runCommand, hcommand, hd, failed, state, hstate, eq_comm]
  | some d =>
    have hrej' := hrejected d hd
    cases hrej : rejectedWord? t.catalogue d (ParsedLine.ofLine d.schema? line) with
    | some o =>
      rw [hrej] at hrej'
      simp [Run.SameResult, runCommand, hcommand, hd, hrej, hrej', failed, state, hstate, eq_comm]
    | none =>
      rw [hrej] at hrej'
      have hsame := hattempt d hd
      cases hi : Invocation.ofLine d (ParsedLine.ofLine d.schema? line) with
      | error fault =>
        cases hi' : Invocation.ofLine d (ParsedLine.ofLine d.schema? line') with
        | error fault' =>
          rw [hi, hi'] at hsame
          obtain rfl : fault' = fault := by simpa [Except.map] using hsame
          simp [Run.SameResult, runCommand, hcommand, hd, hrej, hrej', hi, hi', state, hstate,
            eq_comm]
        | ok i' => simp [hi, hi', Except.map] at hsame
      | ok i =>
        cases hi' : Invocation.ofLine d (ParsedLine.ofLine d.schema? line') with
        | error fault' => simp [hi, hi', Except.map] at hsame
        | ok i' =>
          rcases hr : s.engine.attempt acting (ParsedLine.ofLine none line).command i with
            ⟨engine, fault | denial | x⟩ <;>
          rcases hr' : s'.engine.attempt acting (ParsedLine.ofLine none line).command i' with
            ⟨engine', fault' | denial' | x'⟩ <;>
          simp only [hi, hi', hr, hr', Except.map, Except.ok.injEq, Prod.mk.injEq,
            Except.error.injEq, reduceCtorEq, and_false] at hsame
          · simp [Run.SameResult, runCommand, hcommand, hd, hrej, hrej', hi, hi', hr, hr',
              hsame.1, hsame.2, state, eq_comm]
          · simp [Run.SameResult, runCommand, hcommand, hd, hrej, hrej', hi, hi', hr, hr', failed,
              hsame.1, hsame.2, state, eq_comm]
          · simp +contextual [Run.SameResult, runCommand, hcommand, hd, hrej, hrej', hi, hi', hr,
              hr', hsame.1, hsame.2, state, afterExecution, contextAfter, hmessage d hd]

/-- **Only the words of a line count**, and of the session the commands and the state of the
simulated system. -/
theorem runCommand_of_words (hcatalogue : s'.engine.catalogue = s.engine.catalogue)
    (hstate : s'.state = s.state) (hwords : words? (Text.trim line') = words? (Text.trim line))
    (t : Tutor) (acting : ExecutionContext) (tracked tracked' : String) :
    (runCommand t s line acting tracked).SameResult (runCommand t s' line' acting tracked') := by
  have hline : ∀ schema, ParsedLine.ofLine schema line' = ParsedLine.ofLine schema line := by
    intro schema
    rw [ParsedLine.ofLine, hwords, ParsedLine.ofLine]
  refine (runCommand_congr hstate (by rw [hline]) (fun d _ => by rw [hline]) (fun d _ => ?_)
    (fun d _ _ _ => by rw [hline]) tracked tracked').1
  have hsame := Engine.attempt_congr hcatalogue hstate acting (ParsedLine.ofLine none line).command
  simp only [hline, hsame]

end Session

end ClusterTutor
