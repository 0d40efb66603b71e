/-!
# Command definitions

A definition says everything the tutor knows of one tool: the options and subcommands
that may be typed, the texts of its help page, and the effects that running it has on
the simulated machines. Definitions are data. Nothing here runs a command; the engine
interprets what is declared.

An *effect* names a state domain and fields of it. It may apply to every invocation or
only to those with one of certain flags, and it may need root privilege.
-/

namespace ClusterTutor

/-- The privilege that sudo gives. -/
def rootPrivilege : String := "root"

/-- The privilege that a session starts with. -/
def userPrivilege : String := "user"

/-- The categories of commands, in order. -/
def categories : List String :=
  ["cluster_management", "containers", "cuda_tools", "diagnostics", "firmware", "general",
    "gpu_fabric", "gpu_management", "modules", "monitoring", "mpi", "nccl_tests", "networking",
    "parallel_shell", "rdma_perf", "storage", "system_info"]

/-- An option of a command or of a subcommand. -/
structure CommandOption where
  /-- What the option does. -/
  description : String := ""
  /-- The spelling with one dash. -/
  short : Option String := none
  /-- The spelling with two dashes. -/
  long : Option String := none
  /-- A spelling of another form. -/
  flag : Option String := none
  /-- A name for the value that the option takes; without one it takes none. -/
  arguments : Option String := none
  /-- The kind of value. -/
  argumentType : Option String := none
  /-- The value if the option is not given. -/
  default : Option String := none
  /-- A sample use. -/
  sample : Option String := none
deriving DecidableEq, Repr

namespace CommandOption

/-- Whether the option takes the word after it as its value. -/
def takesValue (o : CommandOption) : Bool :=
  o.arguments.any fun a => !a.isEmpty

/-- The declared spellings, in order. -/
def spellings (o : CommandOption) : List String :=
  [o.short, o.long, o.flag].filterMap fun s => s.filter fun t => !t.isEmpty

end CommandOption

/-- A subcommand with options of its own. -/
structure Subcommand where
  /-- The word that selects it. -/
  name : String
  /-- What it does. -/
  description : String := ""
  /-- Its options. -/
  options : List CommandOption := []
deriving DecidableEq, Repr

/-- The meaning of an exit code. -/
structure ExitCode where
  /-- The code. -/
  code : Int
  /-- What it means. -/
  meaning : String
deriving DecidableEq, Repr

/-- A typical command line. -/
structure UsagePattern where
  /-- The line. -/
  command : String
  /-- What it does. -/
  description : String := ""
  /-- Whether it needs root privilege. -/
  requiresRoot : Bool := false
deriving DecidableEq, Repr

/-- An error message of the tool and what to do about it. -/
structure KnownError where
  /-- The message. -/
  message : String
  /-- What it means. -/
  meaning : String := ""
  /-- What to do about it. -/
  resolution : Option String := none
deriving DecidableEq, Repr

/-- A declared read or write of fields of a state domain. -/
structure Effect where
  /-- The domain. -/
  domain : String
  /-- The fields. -/
  fields : List String := []
  /-- The privilege that the effect needs. -/
  privilege : Option String := none
  /-- The flags of which one has to be given; every invocation if there is no list. -/
  flags : Option (List String) := none
deriving DecidableEq, Repr

/-- The effects of a command. -/
structure Interactions where
  /-- What it reads. -/
  reads : List Effect := []
  /-- What it writes. -/
  writes : List Effect := []
deriving DecidableEq, Repr

/-- Notes in words on who may use a tool. -/
structure PermissionNotes where
  /-- On reading. -/
  read : Option String := none
  /-- On writing. -/
  write : Option String := none
  /-- On anything else. -/
  notes : Option String := none
deriving DecidableEq, Repr

/-- What the tutor knows of one tool. -/
structure Definition where
  /-- The name of the tool. -/
  command : String
  /-- Its category. -/
  category : String := "general"
  /-- What it does. -/
  description : String := ""
  /-- How it is called. -/
  synopsis : String
  /-- The options outside all subcommands. -/
  options : List CommandOption := []
  /-- The subcommands. -/
  subcommands : List Subcommand := []
  /-- The meanings of its exit codes. -/
  exitCodes : List ExitCode := []
  /-- Typical command lines. -/
  usage : List UsagePattern := []
  /-- Its error messages. -/
  errors : List KnownError := []
  /-- Its effects, if any are declared. -/
  interactions : Option Interactions := none
  /-- Notes on who may use it. -/
  permissions : Option PermissionNotes := none
deriving DecidableEq, Repr

namespace Definition

/-- The subcommand with a name. -/
def subcommand? (d : Definition) (name : String) : Option Subcommand :=
  d.subcommands.find? fun s => s.name == name

/-- The declared reads. -/
def reads (d : Definition) : List Effect :=
  d.interactions.elim [] Interactions.reads

/-- The declared writes. -/
def writes (d : Definition) : List Effect :=
  d.interactions.elim [] Interactions.writes

/-- All options: those outside subcommands first, then those of each subcommand. -/
def allOptions (d : Definition) : List CommandOption :=
  d.options ++ d.subcommands.flatMap Subcommand.options

end Definition

end ClusterTutor
