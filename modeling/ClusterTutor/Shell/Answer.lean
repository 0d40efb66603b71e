import ClusterTutor.Session.Line
import ClusterTutor.Shell.Page
import ClusterTutor.Text.Digit

/-!
# Answers to lines

Each screen has a function that says what the shell does with a line typed there. Menu
words are taken without blanks around them and in any case; so are the words of a
session that begin with a colon.

A choice that looks like a number but is none is a fault and not an invalid choice: a
superscript looks like a digit, and no numeral has one.
-/

namespace ClusterTutor.Shell

/-! ### Words -/

/-- A line as a menu word. -/
def menuWord (line : String) : String := Text.lower (Text.trim line)

/-- Whether a menu word leaves the shell. -/
def isQuit (word : String) : Bool := word == "q"

/-- Whether a menu word goes back. -/
def isBack (word : String) : Bool := word == "b"

/-- Whether a word leaves a session. -/
def isSessionBack (word : String) : Bool := word == ":back" || word == ":b"

/-- Whether a word leaves the shell from within a session. -/
def isSessionQuit (word : String) : Bool := word == ":quit" || word == ":exit" || word == ":q"

/-- The item that a menu word numbers, if it numbers one. -/
def chosen? {α : Type} (word : String) (items : List α) : Except Numeral.Fault (Option α) :=
  if word.isEmpty || !word.toList.all Text.isDigitLike then .ok none
  else (Numeral.readInt word).map fun n => if n < 1 then none else items[(n - 1).toNat]?

/-! ### Coming to a screen -/

/-- Ends the shell with a fault. -/
def fail (t : Tutor) (fault : ShellFault) : Turn := ⟨t, [], .fail fault⟩

/-- Leaves the shell. -/
def leave (t : Tutor) : Turn := ⟨t, [], .leave⟩

/-- Asks for another line at a screen. -/
def ask (t : Tutor) (screen : Screen) : Turn := ⟨t, [], .ask screen⟩

/-- Shows the profiles. -/
def toProfiles (t : Tutor) : Turn := (ask t .profiles).printing (Page.profiles t)

/-- Shows the menu. -/
def toMenu (t : Tutor) (m : Moment) (learner : Profile) : Turn :=
  (ask t (.menu learner)).printing (Page.menu t learner m)

/-- Opens a session for a learner, and goes on in it. -/
def withSession (t : Tutor) (m : Moment) (learner : Profile) (go : Session → Turn) : Turn :=
  match Session.open? t learner.id m.clock with
  | none => fail t (.unknownProfile learner.id)
  | some s => go s

/-- Opens the free terminal. -/
def toTerminal (t : Tutor) (m : Moment) (learner : Profile) : Turn :=
  withSession t m learner fun s => (ask t (.terminal learner s)).printing Page.terminal

/-- Shows the labs. -/
def toLabs (t : Tutor) (m : Moment) (learner : Profile) : Turn :=
  match t.labStatuses learner.id with
  | [] => (toMenu t m learner).printing ["No labs available."]
  | rows => (ask t (.labs learner)).printing (Page.labs rows)

/-- Goes on with a lab: its current step is announced if it is a new one. After the last
step the lab is left. -/
def toStep (t : Tutor) (m : Moment) (learner : Profile) (s : Session) (isNew : Bool) : Turn :=
  match s.lab, s.currentStep? with
  | some lab, some step =>
    (ask t (.lab learner s)).printing (if isNew then Page.labStep lab s.stepIndex step else [])
  | _, _ => (toMenu t m learner).printing ["Lab complete. Progress saved."]

/-- Starts a lab. -/
def toLab (t : Tutor) (m : Moment) (learner : Profile) (lab : Lab) : Turn :=
  withSession t m learner fun s =>
    (toStep t m learner (s.startLab t lab m.clock) true).printing (Page.labStart lab)

/-- Shows the families that a quiz may be on. -/
def toFamilies (t : Tutor) (learner : Profile) : Turn :=
  (ask t (.families learner)).printing (Page.families t)

/-- Shows the commands that can be read about. -/
def toReference (t : Tutor) (learner : Profile) : Turn :=
  (ask t (.reference learner)).printing (Page.reference t.catalogue)

/-! ### Profiles -/

/-- What follows the choice of a profile. -/
def atProfiles (t : Tutor) (m : Moment) (line : String) : Turn :=
  let word := menuWord line
  if isQuit word then leave t
  else if word == "n" then ask t .profileName
  else if word == "d" then
    if t.store.profiles.isEmpty then
      (toProfiles t).printing ["No profiles available to delete."]
    else (ask t .deletion).printing (Page.deletion t)
  else
    match chosen? word t.store.listProfiles with
    | .error fault => fail t (.numeral fault)
    | .ok (some learner) => toMenu t m learner
    | .ok none => (toProfiles t).printing ["Invalid profile selection."]

/-- What follows the name of a new profile. -/
def atProfileName (t : Tutor) (m : Moment) (line : String) : Turn :=
  if Text.isBlankText line then (toProfiles t).printing ["Profile name is required."]
  else
    match t.createProfile line with
    | .error .nameTaken =>
      (toProfiles t).printing ["Could not create profile (name may already exist)."]
    | .error fault => fail t (.store fault)
    | .ok (t, learner) => toMenu t m learner

/-- What follows the choice of a profile to be deleted. -/
def atDeletion (t : Tutor) (line : String) : Turn :=
  let word := menuWord line
  if isBack word then toProfiles t
  else
    match chosen? word t.store.listProfiles with
    | .error fault => fail t (.numeral fault)
    | .ok none => (toProfiles t).printing ["Invalid choice."]
    | .ok (some target) => (ask t (.confirmation target)).printing [Page.deletionWarning target]

/-- What follows the confirmation. -/
def atConfirmation (t : Tutor) (target : Profile) (line : String) : Turn :=
  if Text.trim line ≠ "YES" then (toProfiles t).printing ["Deletion cancelled."]
  else
    match t.deleteProfile target.id with
    | (t, true) => (toProfiles t).printing [s!"Deleted profile '{target.name}'."]
    | (t, false) => (toProfiles t).printing ["Profile was not found."]

/-! ### The menu -/

/-- What follows the choice of an activity. -/
def atMenu (t : Tutor) (m : Moment) (learner : Profile) (line : String) : Turn :=
  let word := menuWord line
  if word == "1" then toTerminal t m learner
  else if word == "2" then toLabs t m learner
  else if word == "3" then (toMenu t m learner).printing (Page.tiers (t.tierStatuses learner.id))
  else if word == "4" then toReference t learner
  else if word == "5" then toFamilies t learner
  else if isBack word then toProfiles t
  else if isQuit word then leave t
  else (toMenu t m learner).printing ["Invalid choice."]

/-! ### Sessions -/

/-- What became of a line that was typed into a session. -/
inductive SessionTurn where
  /-- The learner goes back. -/
  | back
  /-- The learner leaves the shell. -/
  | quit
  /-- The session goes on. -/
  | stay (tutor : Tutor) (session : Session) (printed : List String)
  /-- A fault ends the shell. -/
  | fault (tutor : Tutor) (printed : List String) (fault : ShellFault)

/-- What becomes of a line in a session. -/
def inSession (t : Tutor) (s : Session) (line : String) : SessionTurn :=
  let word := menuWord line
  if isSessionBack word then .back
  else if isSessionQuit word then .quit
  else if word == ":state" then
    match Page.state s.state with
    | (lines, none) => .stay t s lines
    | (lines, some fault) => .fault t lines fault
  else if word == ":undo" then
    match s.undo with
    | (s, true) => .stay t s ["Reverted last change."]
    | (s, false) => .stay t s ["Nothing to undo."]
  else
    let run := Session.runLine t s line
    match run.outcome with
    | .error fault => .fault run.tutor [] (.line fault)
    | .ok o =>
      .stay run.tutor run.session (if o.message.isEmpty then [] else [o.message])

/-- What follows a line in the free terminal. -/
def atTerminal (t : Tutor) (m : Moment) (learner : Profile) (s : Session) (line : String) : Turn :=
  match inSession t s line with
  | .back => toMenu t m learner
  | .quit => leave t
  | .stay t s printed => (ask t (.terminal learner s)).printing printed
  | .fault t printed fault => (fail t fault).printing printed

/-! ### Labs -/

/-- What follows the choice of a lab. -/
def atLabs (t : Tutor) (m : Moment) (learner : Profile) (line : String) : Turn :=
  let word := menuWord line
  if isBack word then toMenu t m learner
  else if isQuit word then leave t
  else
    match chosen? word (t.labStatuses learner.id) with
    | .error fault => fail t (.numeral fault)
    | .ok none => (toMenu t m learner).printing ["Invalid choice."]
    | .ok (some row) =>
      if row.unlocked then toLab t m learner row.lab
      else (toMenu t m learner).printing [t.labRequirement learner.id row.lab]

/-- Goes on after a line of a lab: if the step is passed, the next one is begun. -/
def afterLine (t : Tutor) (m : Moment) (learner : Profile) (s : Session) : Turn :=
  let a := s.advance t m.now m.clock
  match a.score with
  | .error fault => fail a.tutor (.store fault)
  | .ok score =>
    let passed := (score.filter StepScore.passed).toList.map Page.stepPassed
    (toStep a.tutor m learner a.session
      (decide (a.session.stepIndex ≠ s.stepIndex))).printing passed

/-- Reveals a hint. -/
def giveHint (t : Tutor) (m : Moment) (learner : Profile) (s : Session) : Turn :=
  match s.revealHint m.clock with
  | .error fault => fail t (.hint fault)
  | .ok (s, text) => (ask t (.lab learner s)).printing [text]

/-- Tells how the step stands. -/
def giveStatus (t : Tutor) (m : Moment) (learner : Profile) (s : Session) : Turn :=
  let score := s.score?.toList.map Page.stepProgress
  match s.hintLine m.clock with
  | .error fault => (fail t (.hint fault)).printing score
  | .ok text => (ask t (.lab learner s)).printing (score ++ [text])

/-- What follows a line in a lab. -/
def atLab (t : Tutor) (m : Moment) (learner : Profile) (s : Session) (line : String) : Turn :=
  let word := menuWord line
  if word == ":hint" then giveHint t m learner s
  else if word == ":status" then giveStatus t m learner s
  else
    match inSession t s line with
    | .back => (toMenu t m learner).printing ["Leaving lab. Progress saved."]
    | .quit => leave t
    | .stay t s printed => (afterLine t m learner s).printing printed
    | .fault t printed fault => (fail t fault).printing printed

/-! ### The reference -/

/-- What follows the name of a command. -/
def atReference (t : Tutor) (m : Moment) (learner : Profile) (line : String) : Turn :=
  let name := Text.trim line
  if isBack (Text.lower name) then toMenu t m learner
  else
    match t.catalogue.get? name with
    | none => (toMenu t m learner).printing [Page.noEntry name]
    | some d => (toMenu t m learner).printing [d.helpPage]

/-! ### Quizzes -/

/-- What follows the choice of a family. -/
def atFamilies (t : Tutor) (m : Moment) (learner : Profile) (line : String) : Turn :=
  let word := menuWord line
  if isBack word then toMenu t m learner
  else
    match chosen? word (Page.quizFamilies t) with
    | .error fault => fail t (.numeral fault)
    | .ok none => (toMenu t m learner).printing ["Invalid choice."]
    | .ok (some family) => ask t (.score learner family)

/-- What is said of a score that is no percentage. -/
def badScore : String := "Score must be a number between 0 and 100."

/-- What follows the score of a quiz. -/
def atScore (t : Tutor) (m : Moment) (learner : Profile) (family : Family) (line : String) : Turn :=
  match Numeral.readBinary? (Text.trim line) with
  | none => (toMenu t m learner).printing [badScore]
  | some score =>
    match t.recordQuiz learner.id family.id score with
    | .error .scoreOutOfRange => (toMenu t m learner).printing [badScore]
    | .error (.unknownFamily id) => fail t (.unknownFamily id)
    | .ok (t, result) => (toMenu t m learner).printing [Page.quizRecorded family result]

/-! ### All screens -/

/-- What the shell does with a line that was typed at a moment. -/
def answer (t : Tutor) (screen : Screen) (m : Moment) (line : String) : Turn :=
  match screen with
  | .profiles => atProfiles t m line
  | .profileName => atProfileName t m line
  | .deletion => atDeletion t line
  | .confirmation target => atConfirmation t target line
  | .menu learner => atMenu t m learner line
  | .terminal learner s => atTerminal t m learner s line
  | .labs learner => atLabs t m learner line
  | .lab learner s => atLab t m learner s line
  | .reference learner => atReference t m learner line
  | .families learner => atFamilies t m learner line
  | .score learner family => atScore t m learner family line

end ClusterTutor.Shell
