import ClusterTutor.Arguments
import ClusterTutor.Catalogue.Source
import ClusterTutor.Content.Commands
import ClusterTutor.Content.Families
import ClusterTutor.Content.Labs
import ClusterTutor.Settings
import ClusterTutor.Shell.Performance

/-!
# The program

A start of the program goes through its arguments, its settings and its content, and
then prints help or performs the shell. Each of the first three may end it before
anything is printed.

A finished performance is enough to say what the program prints and how it ends
(`ClusterTutor.Program.run`); the shell that answers a learner line by line takes the
same turns.
-/

namespace ClusterTutor

/-- The definitions that come with the tutor, as a loaded catalogue. -/
def Catalogue.standard : Catalogue := .ofDefinitions Content.commands

namespace Tutor

/-- A tutor with the families and labs that come with it, and nothing remembered. -/
def withCatalogue (catalogue : Catalogue) : Tutor where
  catalogue
  families := Content.families
  labs := Content.labs

/-- The tutor with all its own content. -/
def standard : Tutor := withCatalogue .standard

/-- A tutor with the definitions that sources delivered. -/
def ofDeliveries (ds : List Delivery) : Except Defect Tutor :=
  (Catalogue.ofDeliveries ds).map fun loaded => withCatalogue loaded.catalogue

end Tutor

namespace Program

/-- How the program ends. -/
inductive Ending where
  /-- With an exit code. -/
  | exit (code : Nat)
  /-- With its usage, which was asked for. -/
  | usage
  /-- With wrong arguments. -/
  | wrongArguments
  /-- With settings that make no sense. -/
  | settings (fault : SettingsFault)
  /-- With content that cannot be loaded. -/
  | content (defect : Defect)
  /-- With a fault of the shell. -/
  | shell (fault : ShellFault)
deriving DecidableEq, Repr

/-- What a run of the program comes to. -/
structure Run where
  /-- What it prints. -/
  printed : String := ""
  /-- How it ends. -/
  ending : Ending

/-- What is printed for a request for help, and the exit code. -/
def help (t : Tutor) (topic : Option String) : String × Nat :=
  match topic with
  | none => ("Available commands: " ++ ", ".intercalate t.catalogue.names, 0)
  | some name =>
    match t.catalogue.get? name with
    | none => (Page.noEntry name, 1)
    | some d => (d.helpPage, 0)

/-- Does what the program was started for. -/
def serve (t : Tutor) (request : Request) (lines : List Shell.TypedLine) : Run :=
  match request with
  | .help topic =>
    let (text, code) := help t topic
    { printed := text ++ "\n", ending := .exit code }
  | .play =>
    let p := Shell.perform t lines
    { printed := String.join (p.transcript.map Shell.Piece.shown)
      ending := match p.fault with | none => .exit 0 | some fault => .shell fault }

/-- The tutor that settings ask for, where `deliveries` reads a directory. -/
def tutorOf (s : Settings) (deliveries : Path → List Delivery) : Except Defect Tutor :=
  match s.contentDir with
  | none => .ok .standard
  | some dir => Tutor.ofDeliveries (deliveries dir)

/-- A run of the program on lines that are given in advance. -/
def run (arguments : List String) (environment : String → Option String)
    (deliveries : Path → List Delivery) (lines : List Shell.TypedLine) : Run :=
  match Arguments.of arguments with
  | .usage => { ending := .usage }
  | .wrong => { ending := .wrongArguments }
  | .run request =>
    match Settings.ofEnvironment environment with
    | .error fault => { ending := .settings fault }
    | .ok settings =>
      match tutorOf settings deliveries with
      | .error defect => { ending := .content defect }
      | .ok t => serve t request lines

end Program

end ClusterTutor
