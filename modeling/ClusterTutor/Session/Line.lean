import ClusterTutor.Session.Basic

/-!
# Running a typed line

A line goes through the built-ins, the catalogue, the checks of its words and the
engine, and ends at the first that has something to say about it:

1. a blank line, or one that cannot be split into words;
2. `help`, `whoami`, and `sudo`, which runs the rest of the line as root;
3. an unknown command, a subcommand or a flag that is not declared;
4. a denial by the engine;
5. the execution, after which the line is tracked and the tool counts as used.

`sudo` lends its privilege to one line: unless the command itself changes the privilege,
the session keeps its own.
-/

namespace ClusterTutor

/-- What became of a line. -/
inductive LineStatus where
  /-- It was executed or answered. -/
  | ok
  /-- Its words are wrong. -/
  | invalid
  /-- The engine denied it. -/
  | denied
  /-- Its command is not defined. -/
  | unknownCommand
  /-- It is blank. -/
  | empty
deriving DecidableEq, Repr

/-- The code of a status. -/
def LineStatus.code : LineStatus → String
  | .ok => "ok"
  | .invalid => "invalid"
  | .denied => "denied"
  | .unknownCommand => "unknown_command"
  | .empty => "empty"

/-- What the learner sees of a line. -/
structure LineOutcome where
  /-- What became of it. -/
  status : LineStatus
  /-- What is printed. -/
  message : String := ""
  /-- What may have been meant. -/
  suggestions : List String := []
  /-- What was written to the state. -/
  delta : Snapshot := .empty

namespace Session

/-- Why a line has no outcome. -/
inductive LineFault where
  /-- A word that looks like a number cannot be read as one. -/
  | numeral (fault : Numeral.Fault)
  /-- The engine fails to execute what it allows. -/
  | execution (fault : ExecutionFault)
deriving DecidableEq, Repr

/-- A line that has been run. -/
structure Run where
  /-- The tutor afterwards. -/
  tutor : Tutor
  /-- The session afterwards. -/
  session : Session
  /-- The outcome, if there is one. -/
  outcome : Except LineFault LineOutcome

/-- A line that was answered without any effect. -/
def answered (t : Tutor) (s : Session) (o : LineOutcome) : Run := ⟨t, s, .ok o⟩

/-- A line that has failed. -/
def failed (t : Tutor) (s : Session) (o : LineOutcome) : Run :=
  ⟨t, { s with failedAttempts := s.failedAttempts + 1 }, .ok o⟩

/-! ### Messages -/

/-- Fields as they are listed in messages. -/
def fieldList (fields : List (FieldName × Value)) : String :=
  ", ".intercalate (fields.map fun f => s!"{f.1.shown}={f.2.text}")

/-- What is said of the fields that an effect reads. -/
def readLine (e : Effect) (state : Snapshot) : String :=
  let domain := (state.get? e.domain).getD .empty
  let names := if e.fields.isEmpty then domain.keys else e.fields.map .text
  let shown := fieldList (names.filterMap fun n => (domain.get? n).map fun v => (n, v))
  s!"{e.domain}: " ++ if shown.isEmpty then "(no data)" else shown

/-- What is said of an execution: what it wrote or, if it wrote nothing, what it
read. -/
def executionMessage (d : Definition) (p : ParsedLine) (state delta : Snapshot) : String :=
  let lines :=
    if delta.isEmpty then (d.reads.filter (·.applies p.flags.keys)).map fun e => readLine e state
    else delta.toList.map fun e => s!"{e.1} updated: {fieldList e.2.toList}"
  if lines.isEmpty then s!"{d.command}: ok" else "\n".intercalate lines

/-- The answer to a request for help. -/
def helpAnswer (c : Catalogue) (p : ParsedLine) : LineOutcome :=
  match p.words with
  | [] => { status := .ok, message := "Available commands: " ++ ", ".intercalate c.names }
  | word :: _ =>
    match c.get? word with
    | none => { status := .unknownCommand, message := s!"help: no entry for '{word}'" }
    | some d =>
      match p.flags.keys with
      | flag :: _ => { status := .ok, message := d.flagHelp flag }
      | [] => { status := .ok, message := d.helpPage }

/-- What is said of an unknown command. -/
def unknownCommand (c : Catalogue) (command : String) : LineOutcome :=
  let suggestions := Text.usualSuggestions command c.names
  let hint := suggestions.head?.elim "" fun s => s!"\nDid you mean '{s}'?"
  { status := .unknownCommand, message := s!"{command}: command not found{hint}", suggestions }

/-- What is said of the first word of a line that is not declared, if there is one. -/
def rejectedWord? (c : Catalogue) (d : Definition) (p : ParsedLine) : Option LineOutcome :=
  let subcommand : Option LineOutcome :=
    if d.subcommands.isEmpty then none
    else p.subcommands.head?.bind fun word =>
      let verdict := c.checkSubcommand d.command word
      if verdict.accepts then none
      else some {
        status := .invalid
        message := rejection d.command word verdict (.other "subcommand") none
        suggestions := verdict.suggestions }
  let flag : Option LineOutcome := p.flags.keys.findSome? fun name =>
    let verdict := c.checkFlag d.command name
    if verdict.accepts then none
    else some {
      status := .invalid
      message := rejection d.command name verdict .option (some d)
      suggestions := verdict.suggestions }
  match subcommand with
  | some o => some o
  | none => flag

/-! ### Running -/

/-- The actor of the session after an execution that began with `acting` and ended with
`after`: privilege that was only lent is given back. -/
def contextAfter (s : Session) (acting after : ExecutionContext) : ExecutionContext :=
  if after.privilege = acting.privilege then { after with privilege := s.context.privilege }
  else after

/-- A session after an execution of a line. -/
def afterExecution (s : Session) (engine : Engine) (acting : ExecutionContext) (x : Execution)
    (line : String) : Session :=
  { s with
    engine
    pastContexts := dropOldest undoLimit (s.context :: s.pastContexts)
    context := s.contextAfter acting x.context
    tracker := s.tracker.record line }

/-- Runs a line that is no built-in, as an actor, and tracks it as `tracked`. -/
def runCommand (t : Tutor) (s : Session) (line : String) (acting : ExecutionContext)
    (tracked : String) : Run :=
  let command := (ParsedLine.ofLine none line).command
  match t.catalogue.get? command with
  | none => failed t s (unknownCommand t.catalogue command)
  | some d =>
    let p := ParsedLine.ofLine d.schema? line
    match rejectedWord? t.catalogue d p with
    | some o => failed t s o
    | none =>
      match Invocation.ofLine d p with
      | .error fault => ⟨t, s, .error (.numeral fault)⟩
      | .ok i =>
        match s.engine.attempt acting command i with
        | (engine, .error fault) => ⟨t, { s with engine }, .error (.execution fault)⟩
        | (engine, .ok (.error denial)) =>
          failed t { s with engine } { status := .denied, message := denial.message }
        | (engine, .ok (.ok x)) =>
          ⟨t.markToolUsed s.profile command, s.afterExecution engine acting x tracked, .ok {
            status := .ok
            message := executionMessage d p x.state x.delta
            delta := x.delta }⟩

/-- Runs a line without blanks around it. -/
def runTrimmed (t : Tutor) (s : Session) (line : String) : Run :=
  let p := ParsedLine.ofLine none line
  if p.command = "" then
    failed t s { status := .invalid, message := "Could not parse command line." }
  else if p.command = "help" then answered t s (helpAnswer t.catalogue p)
  else if p.command = "whoami" then
    answered t s { status := .ok, message := s.context.privilege }
  else if p.command = "sudo" then
    let inner := String.ofList (Text.trimList (line.toList.drop 4))
    if inner = "" then failed t s { status := .invalid, message := "usage: sudo <command>" }
    else if (ParsedLine.ofLine none inner).command = "whoami" then
      answered t s { status := .ok, message := s.context.elevated.privilege }
    else runCommand t s inner s.context.elevated line
  else runCommand t s line s.context line

/-- Runs a typed line. -/
def runLine (t : Tutor) (s : Session) (line : String) : Run :=
  let trimmed := Text.trim line
  if trimmed = "" then answered t s { status := .empty }
  else runTrimmed t { s with typed := s.typed ++ [trimmed] } trimmed

end Session

end ClusterTutor
