import ClusterTutor.Path
import ClusterTutor.Text.Blank
import ClusterTutor.Text.Case
import ClusterTutor.Text.Quoted

/-!
# Settings

The tutor is set up by three variables of the environment: where progress is kept, how
much is logged, and where definitions are read from. A blank variable counts as unset.
-/

namespace ClusterTutor

/-- How the tutor is set up. -/
structure Settings where
  /-- The directory in which progress is kept. -/
  dataDir : Path := .ofText ".cmdlab"
  /-- The least level that is logged. -/
  logLevel : String := "WARNING"
  /-- The directory that definitions are read from, unless the tutor's own are used. -/
  contentDir : Option Path := none
deriving DecidableEq, Repr

/-- Why the tutor cannot be set up. -/
inductive SettingsFault where
  /-- There is no such level. -/
  | unknownLevel (level : String)
deriving DecidableEq, Repr

/-- The variable for the directory in which progress is kept. -/
def homeVariable : String := "CMDLAB_HOME"

/-- The variable for the least level that is logged. -/
def levelVariable : String := "CMDLAB_LOG_LEVEL"

/-- The variable for the directory that definitions are read from. -/
def contentVariable : String := "CMDLAB_CONTENT_DIR"

/-- The message about a fault. -/
def SettingsFault.message : SettingsFault → String
  | .unknownLevel level => s!"Invalid log level in {levelVariable}: {Text.quoted level}"

/-- The levels that can be logged. -/
def logLevels : List String :=
  ["CRITICAL", "FATAL", "ERROR", "WARN", "WARNING", "INFO", "DEBUG", "NOTSET"]

namespace Settings

/-- A variable without blanks around it, unless it is unset or blank. -/
def given? (environment : String → Option String) (name : String) : Option String :=
  ((environment name).map Text.trim).filter fun s => s ≠ ""

/-- The settings that an environment asks for. -/
def ofEnvironment (environment : String → Option String) : Except SettingsFault Settings :=
  let given := given? environment
  let usual : Settings := {}
  let logLevel := ((given levelVariable).map Text.upper).getD usual.logLevel
  if logLevels.contains logLevel then
    .ok {
      dataDir := ((given homeVariable).map Path.ofText).getD usual.dataDir
      logLevel
      contentDir := (given contentVariable).map Path.ofText }
  else .error (.unknownLevel logLevel)

/-- The file in which progress is kept. -/
def progressFile (s : Settings) : Path := s.dataDir.entry "progress.db"

end Settings

end ClusterTutor
