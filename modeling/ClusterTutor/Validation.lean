import ClusterTutor.Catalogue.Basic
import ClusterTutor.Text.Suggestion

/-!
# Checking flags and subcommands

What is typed after a command is checked against its definition. A word that is not
declared is rejected, and the declared words near it are suggested. As long as the
catalogue is not loaded nothing is rejected.
-/

namespace ClusterTutor

/-- What a check says of a word. -/
inductive Verdict where
  /-- There is nothing to check against. -/
  | notLoaded
  /-- The word is declared. -/
  | valid
  /-- The word is not declared; some others may have been meant. -/
  | invalid (suggestions : List String)
deriving DecidableEq, Repr

namespace Verdict

/-- Whether a word may be used. -/
def accepts : Verdict → Bool
  | .invalid _ => false
  | _ => true

/-- The code of a verdict. -/
def code : Verdict → String
  | .notLoaded => "not_loaded"
  | .valid => "valid"
  | .invalid _ => "invalid"

/-- What may have been meant. -/
def suggestions : Verdict → List String
  | .invalid ss => ss
  | _ => []

end Verdict

/-- Checks a word against the declared ones. -/
def Verdict.of (word : String) (declared : List String) : Verdict :=
  if declared.contains word then .valid else .invalid (Text.usualSuggestions word declared)

namespace Definition

/-- Checks a flag, in any spelling. -/
def checkFlag (d : Definition) (flag : String) : Verdict :=
  .of (tokenOf flag) d.tokens

/-- Checks a subcommand; a command without subcommands takes none. -/
def checkSubcommand (d : Definition) (word : String) : Verdict :=
  if d.subcommands.isEmpty then .invalid []
  else .of word (d.subcommands.map Subcommand.name)

end Definition

namespace Catalogue

/-- Checks a flag of a command. -/
def checkFlag (c : Catalogue) (command flag : String) : Verdict :=
  if !c.isLoaded then .notLoaded
  else match c.get? command with
    | none => .invalid []
    | some d => d.checkFlag flag

/-- Checks a subcommand of a command. -/
def checkSubcommand (c : Catalogue) (command word : String) : Verdict :=
  if !c.isLoaded then .notLoaded
  else match c.get? command with
    | none => .invalid []
    | some d => d.checkSubcommand word

/-- The flag schema of a command, unless the command is unknown or has no options. -/
def schema? (c : Catalogue) (command : String) : Option FlagSchema :=
  (c.get? command).bind Definition.schema?

end Catalogue

end ClusterTutor
