import ClusterTutor.Session.Line

/-!
# Screens

The shell is always at one *screen*: it has asked something and waits for a line. From
the screen of profiles the learner comes to the menu, and from the menu to the screens
that do something:

| screen | what is typed there |
|---|---|
| `profiles` | the number of a profile, `n`, `d` or `q` |
| `profileName` | the name of a new profile |
| `deletion` | the number of the profile to be deleted |
| `confirmation` | `YES` |
| `menu` | the number of an activity, `b` or `q` |
| `terminal` | command lines |
| `labs` | the number of a lab |
| `lab` | command lines, `:hint` and `:status` |
| `reference` | the name of a command |
| `families` | the number of a family |
| `score` | the score of a quiz |

A line takes the shell to the next screen, or ends it. A fault ends it as well.
-/

namespace ClusterTutor

/-- A moment on two clocks: that of the calendar, and one that only counts. -/
structure Moment where
  /-- The instant in the calendar. -/
  now : Instant := .year2024
  /-- The seconds counted. -/
  clock : Magnitude := .whole 0

namespace Moment

/-- The moment a number of seconds later on the calendar alone. -/
def later (m : Moment) (seconds : Magnitude) : Moment :=
  { m with now := m.now.addSeconds seconds }

/-- The moment a number of seconds later on both clocks. -/
def after (m : Moment) (seconds : Magnitude) : Moment :=
  { m.later seconds with clock := m.clock.add seconds }

end Moment

/-- What the shell waits for. -/
inductive Screen where
  /-- The choice of a profile. -/
  | profiles
  /-- The name of a new profile. -/
  | profileName
  /-- The choice of a profile to be deleted. -/
  | deletion
  /-- The confirmation that a profile is to be deleted. -/
  | confirmation (target : Profile)
  /-- The choice of an activity. -/
  | menu (learner : Profile)
  /-- A line for the free terminal. -/
  | terminal (learner : Profile) (session : Session)
  /-- The choice of a lab. -/
  | labs (learner : Profile)
  /-- A line for a lab. -/
  | lab (learner : Profile) (session : Session)
  /-- The name of a command to read about. -/
  | reference (learner : Profile)
  /-- The choice of a family. -/
  | families (learner : Profile)
  /-- The score of a quiz on a family. -/
  | score (learner : Profile) (family : Family)

/-- The prompt of a session: a root shell or a user shell. -/
def Session.prompt (s : Session) : String :=
  if s.context.isElevated then "root# " else "user$ "

/-- What a screen asks. -/
def Screen.prompt : Screen → String
  | .profiles => "Select profile: "
  | .profileName => "New profile name: "
  | .deletion => "Choose profile to delete: "
  | .confirmation _ => "Type YES to confirm deletion: "
  | .menu _ => "Choose: "
  | .terminal _ session => session.prompt
  | .labs _ => "Choose lab: "
  | .lab _ session => session.prompt
  | .reference _ => "Command name: "
  | .families _ => "Choose family: "
  | .score _ _ => "Score (0-100): "

/-- What ends the shell against the learner's will. -/
inductive ShellFault where
  /-- There are no more lines. -/
  | endOfInput
  /-- A choice looks like a number and is none, or is a number that is too long. -/
  | numeral (fault : Numeral.Fault)
  /-- A line of a session has no outcome. -/
  | line (fault : Session.LineFault)
  /-- The field names of a domain have no order. -/
  | unorderedNames
  /-- The hints of a step cannot be evaluated. -/
  | hint (fault : HintFault)
  /-- The store refuses something. -/
  | store (fault : StoreFault)
  /-- The profile does not exist. -/
  | unknownProfile (id : ProfileNumber)
  /-- The family does not exist. -/
  | unknownFamily (family : String)
deriving DecidableEq, Repr

/-- What follows a line. -/
inductive Next where
  /-- The shell asks for another line. -/
  | ask (screen : Screen)
  /-- The learner has left. -/
  | leave
  /-- A fault has ended the shell. -/
  | fail (fault : ShellFault)

/-- What the shell does with a line. -/
structure Turn where
  /-- The tutor afterwards. -/
  tutor : Tutor
  /-- What is printed. -/
  printed : List String
  /-- What follows. -/
  next : Next

/-- A turn with something printed before it. -/
def Turn.printing (lines : List String) (t : Turn) : Turn :=
  { t with printed := lines ++ t.printed }

end ClusterTutor
