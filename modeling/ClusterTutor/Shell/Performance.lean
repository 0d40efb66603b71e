import ClusterTutor.Shell.Answer

/-!
# Performances

A performance is the shell from its start to its end on lines that are given in
advance, each with the moment at which it is typed. What is printed and what is asked
is kept in order. The shell ends when the learner leaves, with a fault, or when it asks
for a line and there is none.
-/

namespace ClusterTutor.Shell

/-- A line and the moment at which it is typed. -/
structure TypedLine where
  /-- The line. -/
  text : String
  /-- The moment. -/
  moment : Moment

/-- A piece of a transcript. -/
inductive Piece where
  /-- Something printed, on lines of its own. -/
  | text (s : String)
  /-- A prompt; the answer follows it on the line. -/
  | prompt (s : String)
deriving DecidableEq, Repr

/-- A piece as it appears on a terminal where answers are not shown. -/
def Piece.shown : Piece → String
  | .text s => s ++ "\n"
  | .prompt s => s

/-- The shell from its start to its end. -/
structure Performance where
  /-- What was printed and asked. -/
  transcript : List Piece
  /-- The fault that ended the shell, unless the learner left. -/
  fault : Option ShellFault
  /-- The lines that were not read. -/
  unread : List TypedLine
  /-- The tutor at the end. -/
  tutor : Tutor

/-- A performance with pieces before it. -/
def Performance.preceded (pieces : List Piece) (p : Performance) : Performance :=
  { p with transcript := pieces ++ p.transcript }

/-- Goes on from a screen. -/
def performFrom (t : Tutor) (screen : Screen) : List TypedLine → Performance
  | [] => ⟨[.prompt screen.prompt], some .endOfInput, [], t⟩
  | line :: lines =>
    let turn := answer t screen line.moment line.text
    let pieces := Piece.prompt screen.prompt :: turn.printed.map .text
    match turn.next with
    | .ask screen => (performFrom turn.tutor screen lines).preceded pieces
    | .leave => ⟨pieces, none, lines, turn.tutor⟩
    | .fail fault => ⟨pieces, some fault, lines, turn.tutor⟩

/-- The performance on some lines. -/
def perform (t : Tutor) (lines : List TypedLine) : Performance :=
  (performFrom t .profiles lines).preceded ((Page.profiles t).map .text)

end ClusterTutor.Shell
