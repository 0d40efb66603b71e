import ClusterTutor.Proofs.Session.UndoStack
import ClusterTutor.Proofs.Text.Squeeze

/-!
# The traces of a line

Every line that is not blank is noted as typed. What else it leaves behind depends on how
it ends, and there are three ways.

| how the line ends | what it leaves besides its text |
|---|---|
| it is refused, or fails | one more failed attempt |
| a built-in answers it, if only to say that there is no such topic | nothing |
| it is executed | an entry of the tracker and a saved state, and what the command did |

A blank line leaves nothing at all. Nothing but an execution reaches the tutor, hence what
is remembered of the learner is the same after every line of the first two kinds
(`ClusterTutor.Session.of_runLine_not_ok`, `ClusterTutor.Session.of_runLine_builtIn`). The
third kind is `ClusterTutor.Session.of_runLine_executed`; that the tracker gets an entry
for each such line rests on its not being blank.
-/

namespace ClusterTutor

namespace Session

variable {s : Session} {t : Tutor} {line : String} {o : LineOutcome}

/-! ### Lines that end early -/

theorem runLine_of_blank (t : Tutor) (s : Session) (h : Text.trim line = "") :
    runLine t s line = ⟨t, s, .ok { status := .empty }⟩ := by
  simp [runLine, h, answered]

theorem runLine_of_help (t : Tutor) (s : Session)
    (h : (ParsedLine.ofLine none (Text.trim line)).command = "help") :
    runLine t s line = ⟨t, s.typing line,
      .ok (helpAnswer t.catalogue (ParsedLine.ofLine none (Text.trim line)))⟩ := by
  -- A blank line would ask for no command at all.
  have hline : Text.trim line ≠ "" := by
    intro hblank
    have hnone : (ParsedLine.ofLine none "").command = "" := rfl
    rw [hblank, hnone] at h
    exact absurd h (by decide)
  simp [runLine, hline, runTrimmed, h, answered, typing]

/-! ### What a command leaves behind -/

/-- **A command that is not executed** leaves the tutor alone, and one more failure. -/
theorem CommandRun.of_status_ne_ok {tracked : String} {acting : ExecutionContext} {r : Run}
    (h : CommandRun t s line acting tracked r) (ho : r.outcome = .ok o) (hno : o.status ≠ .ok) :
    r.tutor = t ∧ r.session = s.failing := by
  cases h with
  | rejected _ => exact ⟨rfl, rfl⟩
  | overlong _ => simp at ho
  | executed _ _ _ _ =>
    obtain rfl := Except.ok.inj ho
    exact absurd rfl hno

/-- **A command that is executed** is tracked, and the state before it is saved. -/
theorem CommandRun.of_status_eq_ok {tracked : String} {acting : ExecutionContext} {r : Run}
    (h : CommandRun t s line acting tracked r) (hs : s.Paired) (ho : r.outcome = .ok o)
    (hok : o.status = .ok) :
    r.session.tracker = s.tracker.record tracked ∧
      r.session.engine.history = ((s.state, acting) :: s.engine.history).take undoLimit ∧
      r.session.typed = s.typed ∧ r.session.failedAttempts = s.failedAttempts := by
  cases h with
  | rejected hstatus =>
    obtain rfl := Except.ok.inj ho
    exact absurd hok hstatus
  | overlong _ => simp at ho
  | executed _ _ _ hatt =>
    obtain ⟨-, hhistory⟩ := of_attempt_eq_ok hatt
    refine ⟨rfl, ?_, rfl, rfl⟩
    simp only [afterExecution, hhistory, hs.push_eq_take]

/-- A line that is not blank is tracked with its words one space apart. -/
theorem lines_record (tracker : Tracker) (h : Text.trim line ≠ "") :
    (tracker.record (Text.trim line)).lines =
      tracker.lines ++ [Text.squeeze (Text.trim line)] := by
  have hwords : Text.squeeze (Text.trim line) ≠ "" := by
    rw [Ne, Text.squeeze_eq_empty_iff, Text.isBlankText_trim_iff]
    exact h
  simp [Tracker.record, hwords]

/-! ### What a line leaves behind -/

/-- **A line that does not end well leaves no trace** but its text and, unless it is blank
or asks for help, one more failure. -/
theorem of_runLine_not_ok (t : Tutor) (s : Session) (ho : (runLine t s line).outcome = .ok o)
    (hno : o.status ≠ .ok) :
    (runLine t s line).tutor = t ∧
      (runLine t s line).session = { s with
        typed := if Text.trim line = "" then s.typed else s.typed ++ [Text.trim line]
        failedAttempts :=
          if Text.trim line = "" ∨ (ParsedLine.ofLine none (Text.trim line)).command = "help"
          then s.failedAttempts else s.failedAttempts + 1 } := by
  by_cases hblank : Text.trim line = ""
  · simp [runLine_of_blank t s hblank, hblank]
  by_cases hhelp : (ParsedLine.ofLine none (Text.trim line)).command = "help"
  · simp [runLine_of_help t s hhelp, hblank, hhelp, typing]
  have hfailing : { s with
      typed := if Text.trim line = "" then s.typed else s.typed ++ [Text.trim line]
      failedAttempts :=
        if Text.trim line = "" ∨ (ParsedLine.ofLine none (Text.trim line)).command = "help"
        then s.failedAttempts else s.failedAttempts + 1 } = (s.typing line).failing := by
    simp [hblank, hhelp, typing, failing]
  -- The line neither is blank nor asks for help, so every exit that is left counts it as a
  -- failure.
  rw [hfailing]
  have hexits := lineRun_runLine t s line
  generalize runLine t s line = r at hexits ho ⊢
  cases hexits with
  | blank h => exact absurd h hblank
  | answered _ hstatus =>
    obtain rfl := Except.ok.inj ho
    rcases hstatus with hok | ⟨h, -⟩
    · exact absurd hok hno
    · exact absurd h hhelp
  | refused _ => exact ⟨rfl, rfl⟩
  | asActor _ _ hrun => exact hrun.of_status_ne_ok ho hno
  | asRoot _ _ hrun => exact hrun.of_status_ne_ok ho hno

/-- **A line that a built-in answers leaves its text** and nothing else. -/
theorem of_runLine_builtIn (t : Tutor) (s : Session) (ho : (runLine t s line).outcome = .ok o)
    (hok : o.status = .ok) (hbuiltIn : isBuiltIn (Text.trim line) = true) :
    (runLine t s line).tutor = t ∧
      (runLine t s line).session = { s with typed := s.typed ++ [Text.trim line] } := by
  have hexits := lineRun_runLine t s line
  generalize runLine t s line = r at hexits ho ⊢
  cases hexits with
  | blank _ =>
    obtain rfl := Except.ok.inj ho
    simp at hok
  | answered _ _ => exact ⟨rfl, rfl⟩
  | refused hstatus =>
    obtain rfl := Except.ok.inj ho
    simp [hok] at hstatus
  | asActor hno _ _ => simp [hbuiltIn] at hno
  | asRoot hno _ _ => simp [hbuiltIn] at hno

/-- The actor that a line runs its command as. -/
def lineActor (s : Session) (line : String) : ExecutionContext :=
  if (ParsedLine.ofLine none (Text.trim line)).command = "sudo" then s.context.elevated
  else s.context

/-- **A line that is executed** is tracked, saves the state before it, and is no
failure. -/
theorem of_runLine_executed (hs : s.Paired) (t : Tutor) (line : String)
    (ho : (runLine t s line).outcome = .ok o) (hok : o.status = .ok)
    (hno : isBuiltIn (Text.trim line) = false) :
    (runLine t s line).session.tracker.lines =
        s.tracker.lines ++ [Text.squeeze (Text.trim line)] ∧
      (runLine t s line).session.engine.history =
        ((s.state, s.lineActor line) :: s.engine.history).take undoLimit ∧
      (runLine t s line).session.typed = s.typed ++ [Text.trim line] ∧
      (runLine t s line).session.failedAttempts = s.failedAttempts := by
  -- A blank line ends otherwise, so there are words to track.
  have hline : Text.trim line ≠ "" := by
    intro hblank
    rw [runLine_of_blank t s hblank] at ho
    obtain rfl := Except.ok.inj ho
    simp at hok
  have htyping : (s.typing line).Paired := hs.congr rfl rfl
  have hexits := lineRun_runLine t s line
  generalize runLine t s line = r at hexits ho ⊢
  rw [← lines_record s.tracker hline]
  cases hexits with
  | blank h => exact absurd h hline
  | answered hbuiltIn _ => simp [hbuiltIn] at hno
  | refused hstatus =>
    obtain rfl := Except.ok.inj ho
    simp [hok] at hstatus
  | asActor _ hsudo hrun =>
    obtain ⟨htracker, hhistory, htyped, hfailed⟩ := hrun.of_status_eq_ok htyping ho hok
    rw [lineActor, if_neg hsudo]
    exact ⟨congrArg Tracker.lines htracker, hhistory, htyped, hfailed⟩
  | asRoot _ hsudo hrun =>
    obtain ⟨htracker, hhistory, htyped, hfailed⟩ := hrun.of_status_eq_ok htyping ho hok
    rw [lineActor, if_pos hsudo]
    exact ⟨congrArg Tracker.lines htracker, hhistory, htyped, hfailed⟩

/-- **The traces of a line.** After any calls of a fresh session, for every line that has
an outcome:

* if the line does not end well, the tutor and the session are as before, but that the line
  is noted unless it is blank, and that the failures are one more unless the line is blank
  or asks for help;
* if a built-in has answered it, they are as before, but that the line is noted;
* if it was executed, the tracker has one more entry, the history of the engine has the
  state from before on top and keeps its limit, and the failures are as before. -/
theorem traces_of_runLine (t₀ : Tutor) (profile : ProfileNumber) (clock : Magnitude)
    (cs : List (Tutor × SessionCall)) (t : Tutor) (line : String) :
    let s := (start t₀ profile clock).calls cs
    (∀ o, (runLine t s line).outcome = .ok o → o.status ≠ .ok →
      (runLine t s line).tutor = t ∧
      (runLine t s line).session = { s with
        typed := if Text.trim line = "" then s.typed else s.typed ++ [Text.trim line]
        failedAttempts :=
          if Text.trim line = "" ∨ (ParsedLine.ofLine none (Text.trim line)).command = "help"
          then s.failedAttempts else s.failedAttempts + 1 }) ∧
    (∀ o, (runLine t s line).outcome = .ok o → o.status = .ok →
      isBuiltIn (Text.trim line) = true →
        (runLine t s line).tutor = t ∧
        (runLine t s line).session = { s with typed := s.typed ++ [Text.trim line] }) ∧
    (∀ o, (runLine t s line).outcome = .ok o → o.status = .ok →
      isBuiltIn (Text.trim line) = false →
        (runLine t s line).session.tracker.lines =
          s.tracker.lines ++ [Text.squeeze (Text.trim line)] ∧
        (runLine t s line).session.engine.history =
          ((s.state, s.lineActor line) :: s.engine.history).take undoLimit ∧
        (runLine t s line).session.typed = s.typed ++ [Text.trim line] ∧
        (runLine t s line).session.failedAttempts = s.failedAttempts) := by
  intro s
  have hs : s.Paired := (paired_start t₀ profile clock).calls cs
  exact ⟨fun o => of_runLine_not_ok t s, fun o => of_runLine_builtIn t s,
    fun o => of_runLine_executed hs t line⟩

end Session

end ClusterTutor
