import ClusterTutor.Proofs.Engine.Approval
import ClusterTutor.Proofs.Session.WriteValues
import ClusterTutor.Session.Line

/-!
# What running a line can do

Running a line has many exits, and each of them leaves a different trace on the session.
This module lists the exits once, with everything that is known at each of them: a line
is blank, or a built-in answers it, or it runs a command
(`ClusterTutor.Session.lineRun_runLine`), and a command is rejected, or holds a number
with too many digits, or is executed (`ClusterTutor.Session.commandRun_runCommand`).
Statements on lines go through these cases and do not open the code of running a line.

One exit is never taken. The engine can fail to execute what it allows, but only for a value
that cannot be shown, and a line supplies none.
-/

namespace ClusterTutor

namespace Session

/-- What is left of a line after its first four characters, without blanks around it:
the line that `sudo` runs. -/
def sudoRest (line : String) : String := String.ofList (Text.trimList (line.toList.drop 4))

/-- Whether a line without blanks around it is answered by a built-in: it asks for help,
or who is acting, or who would be acting as root. -/
def isBuiltIn (line : String) : Bool :=
  let command := (ParsedLine.ofLine none line).command
  command == "help" || command == "whoami" ||
    (command == "sudo" && (ParsedLine.ofLine none (sudoRest line)).command == "whoami")

/-- The session once a line has been noted as typed. -/
def typing (s : Session) (line : String) : Session :=
  { s with typed := s.typed ++ [Text.trim line] }

/-- The session once a line has failed. -/
def failing (s : Session) : Session := { s with failedAttempts := s.failedAttempts + 1 }

/-- What the learner sees of an execution. -/
def executionOutcome (d : Definition) (p : ParsedLine) (x : Execution) : LineOutcome where
  status := .ok
  message := executionMessage d p x.state x.delta
  delta := x.delta

/-- **The exits of running a command**: it is rejected, or one of its words spells a
number with too many digits, or it is executed. -/
inductive CommandRun (t : Tutor) (s : Session) (line : String) (acting : ExecutionContext)
    (tracked : String) : Run → Prop
  /-- The command, one of its words or its invocation is refused. -/
  | rejected {o : LineOutcome} : o.status ≠ .ok →
    CommandRun t s line acting tracked ⟨t, s.failing, .ok o⟩
  /-- A word that a write takes as its value is a number with too many digits. -/
  | overlong {d : Definition} {fault : Numeral.Fault} :
    Invocation.ofLine d (ParsedLine.ofLine d.schema? line) = .error fault →
    CommandRun t s line acting tracked ⟨t, s, .error (.numeral fault)⟩
  /-- The command is known, its words are declared, and its invocation is allowed. -/
  | executed {d : Definition} {i : Invocation} {engine : Engine} {x : Execution} :
    t.catalogue.get? (ParsedLine.ofLine none line).command = some d →
    rejectedWord? t.catalogue d (ParsedLine.ofLine d.schema? line) = none →
    Invocation.ofLine d (ParsedLine.ofLine d.schema? line) = .ok i →
    s.engine.attempt acting (ParsedLine.ofLine none line).command i =
      (engine, .ok (.ok x)) →
    CommandRun t s line acting tracked
      ⟨t.markToolUsed s.profile (ParsedLine.ofLine none line).command,
        s.afterExecution engine acting x tracked,
        .ok (executionOutcome d (ParsedLine.ofLine d.schema? line) x)⟩

/-- **The exits of running a line**: it is blank, or a built-in answers it, or it is
refused before any command is looked up, or it runs a command, as the actor of the session
or as root. -/
inductive LineRun (t : Tutor) (s : Session) (line : String) : Run → Prop
  /-- There is nothing to run. -/
  | blank : Text.trim line = "" → LineRun t s line ⟨t, s, .ok { status := .empty }⟩
  /-- A built-in has an answer. -/
  | answered {o : LineOutcome} : isBuiltIn (Text.trim line) = true →
    (o.status = .ok ∨
      (ParsedLine.ofLine none (Text.trim line)).command = "help" ∧ o.status = .unknownCommand) →
    LineRun t s line ⟨t, s.typing line, .ok o⟩
  /-- The line has no words, or there is nothing to run as root. -/
  | refused {o : LineOutcome} : o.status = .invalid →
    LineRun t s line ⟨t, (s.typing line).failing, .ok o⟩
  /-- The line runs a command as the actor of the session. -/
  | asActor {r : Run} : isBuiltIn (Text.trim line) = false →
    (ParsedLine.ofLine none (Text.trim line)).command ≠ "sudo" →
    CommandRun t (s.typing line) (Text.trim line) s.context (Text.trim line) r →
    LineRun t s line r
  /-- The line runs a command as root. -/
  | asRoot {r : Run} : isBuiltIn (Text.trim line) = false →
    (ParsedLine.ofLine none (Text.trim line)).command = "sudo" →
    CommandRun t (s.typing line) (sudoRest (Text.trim line)) s.context.elevated (Text.trim line) r →
    LineRun t s line r

theorem status_of_rejectedWord? {c : Catalogue} {d : Definition} {p : ParsedLine} {o : LineOutcome}
    (h : rejectedWord? c d p = some o) : o.status = .invalid := by
  simp only [rejectedWord?] at h
  split at h
  · rename_i o' hsub
    obtain rfl : o' = o := Option.some.inj h
    split at hsub
    · simp at hsub
    · obtain ⟨word, -, hword⟩ := Option.bind_eq_some_iff.1 hsub
      split at hword
      · simp at hword
      · simp only [Option.some.injEq] at hword
        simp [← hword]
  · obtain ⟨name, -, hname⟩ := List.exists_of_findSome?_eq_some h
    split at hname
    · simp at hname
    · simp only [Option.some.injEq] at hname
      simp [← hname]

/-- Running a command goes through one of its exits. -/
theorem commandRun_runCommand (t : Tutor) (s : Session) (line : String)
    (acting : ExecutionContext) (tracked : String) :
    CommandRun t s line acting tracked (runCommand t s line acting tracked) := by
  cases hd : t.catalogue.get? (ParsedLine.ofLine none line).command with
  | none =>
    have hstatus :
        (unknownCommand t.catalogue (ParsedLine.ofLine none line).command).status ≠ .ok := by
      simp [unknownCommand]
    simp only [runCommand, hd]
    exact .rejected hstatus
  | some d =>
    cases hword : rejectedWord? t.catalogue d (ParsedLine.ofLine d.schema? line) with
    | some o =>
      have hstatus : o.status ≠ .ok := by simp [status_of_rejectedWord? hword]
      simp only [runCommand, hd, hword]
      exact .rejected hstatus
    | none =>
      cases hi : Invocation.ofLine d (ParsedLine.ofLine d.schema? line) with
      | error fault =>
        simp only [runCommand, hd, hword, hi]
        exact .overlong hi
      | ok i =>
        obtain ⟨answer, hanswer⟩ := Engine.exists_answer_of_showable s.engine acting
          (ParsedLine.ofLine none line).command (Invocation.showable_of_ofLine hi)
        obtain ⟨engine, hatt⟩ : ∃ engine, s.engine.attempt acting
            (ParsedLine.ofLine none line).command i = (engine, .ok answer) :=
          ⟨_, Prod.ext rfl hanswer⟩
        cases answer with
        | error denial =>
          have hstatus : ({ status := .denied, message := denial.message } : LineOutcome).status
              ≠ .ok := by simp
          obtain ⟨-, rfl⟩ := Engine.attempt_eq_denied_iff.1 hatt
          simp only [runCommand, hd, hword, hi, hatt]
          exact .rejected hstatus
        | ok x =>
          simp only [runCommand, hd, hword, hi, hatt]
          exact .executed hd hword hi hatt

theorem status_helpAnswer (c : Catalogue) (p : ParsedLine) :
    (helpAnswer c p).status = .ok ∨ (helpAnswer c p).status = .unknownCommand := by
  unfold helpAnswer
  split
  · simp
  · split
    · simp
    · split <;> simp

/-- A line under `sudo` goes through one of the exits of a line. -/
theorem lineRun_of_sudo (t : Tutor) (s : Session) {line : String}
    (h : (ParsedLine.ofLine none (Text.trim line)).command = "sudo") :
    LineRun t s line (runTrimmed t (s.typing line) (Text.trim line)) := by
  by_cases hrest : sudoRest (Text.trim line) = ""
  · have hrun : runTrimmed t (s.typing line) (Text.trim line) =
        failed t (s.typing line) { status := .invalid, message := "usage: sudo <command>" } := by
      rw [sudoRest] at hrest
      simp [runTrimmed, h, hrest]
    rw [hrun]
    exact .refused rfl
  by_cases hwho : (ParsedLine.ofLine none (sudoRest (Text.trim line))).command = "whoami"
  · have hrun : runTrimmed t (s.typing line) (Text.trim line) =
        answered t (s.typing line)
          { status := .ok, message := (s.typing line).context.elevated.privilege } := by
      rw [sudoRest] at hrest hwho
      simp [runTrimmed, h, hrest, hwho]
    rw [hrun]
    exact .answered (by simp [isBuiltIn, h, hwho]) (Or.inl rfl)
  · have hrun : runTrimmed t (s.typing line) (Text.trim line) =
        runCommand t (s.typing line) (sudoRest (Text.trim line)) s.context.elevated
          (Text.trim line) := by
      rw [sudoRest] at hrest hwho ⊢
      simp [runTrimmed, h, hrest, hwho, typing]
    rw [hrun]
    exact .asRoot (by simp [isBuiltIn, h, hwho]) h (commandRun_runCommand _ _ _ _ _)

/-- **Running a line goes through one of its exits.** -/
theorem lineRun_runLine (t : Tutor) (s : Session) (line : String) :
    LineRun t s line (runLine t s line) := by
  by_cases hblank : Text.trim line = ""
  · have hrun : runLine t s line = answered t s { status := .empty } := by
      simp [runLine, hblank]
    rw [hrun]
    exact .blank hblank
  have hrun : runLine t s line = runTrimmed t (s.typing line) (Text.trim line) := by
    simp [runLine, hblank, typing]
  rw [hrun]
  by_cases hwords : (ParsedLine.ofLine none (Text.trim line)).command = ""
  · simp only [runTrimmed, hwords, if_true]
    exact .refused rfl
  by_cases hhelp : (ParsedLine.ofLine none (Text.trim line)).command = "help"
  · simp only [runTrimmed, hhelp, if_true]
    refine .answered (by simp [isBuiltIn, hhelp]) ?_
    exact (status_helpAnswer _ _).imp_right fun h => ⟨hhelp, h⟩
  by_cases hwho : (ParsedLine.ofLine none (Text.trim line)).command = "whoami"
  · simp only [runTrimmed, hwho, if_true]
    exact .answered (by simp [isBuiltIn, hwho]) (Or.inl rfl)
  by_cases hsudo : (ParsedLine.ofLine none (Text.trim line)).command = "sudo"
  · exact lineRun_of_sudo t s hsudo
  · have hcommand : runTrimmed t (s.typing line) (Text.trim line) =
        runCommand t (s.typing line) (Text.trim line) s.context (Text.trim line) := by
      simp [runTrimmed, hwords, hhelp, hwho, hsudo, typing]
    rw [hcommand]
    exact .asActor (by simp [isBuiltIn, hhelp, hwho, hsudo]) hsudo (commandRun_runCommand _ _ _ _ _)

end Session

end ClusterTutor
