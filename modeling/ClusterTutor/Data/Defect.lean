/-!
# Defects of content

Definitions, labs, hints and families are read from values that anyone may have
written. What can be wrong with them falls into two groups: a value does not have the
shape that its reader needs, or it has the shape and breaks a rule of the content. The
second group carries messages for the author.

A catalogue of definitions passes over a defective record and goes on. Two defects it
does not contain (`ClusterTutor.Defect.isContained`): an optional field asked of
something that is no object, and a whole number asked of an infinite one. They end the
load.
-/

namespace ClusterTutor

/-- What is wrong with a piece of content. -/
inductive Defect where
  /-- A field that is always needed is asked of something that is no object. -/
  | requiredFieldOfNonObject
  /-- A field that may be left out is asked of something that is no object. -/
  | optionalFieldOfNonObject
  /-- An object lacks a field that is always needed. -/
  | missingField (name : String)
  /-- The parts are asked of something that has none. -/
  | notIterable
  /-- A part of a list that is to become a field is no pair. -/
  | notPair
  /-- A list or an object is used as a name. -/
  | unusableName
  /-- A whole number is asked of something that is neither a number nor a text. -/
  | notNumeric
  /-- A whole number is asked of a text that spells none. -/
  | malformedNumeral
  /-- A whole number is asked of a text with too many digits. -/
  | numeralTooLong
  /-- A text is asked of a whole number with too many digits. -/
  | numberTooLong
  /-- A whole number is asked of an undefined number. -/
  | undefinedNumber
  /-- A whole number is asked of an infinite number. -/
  | infiniteNumber
  /-- A command record is no object. -/
  | recordNotObject (kind : String)
  /-- A required text is absent, empty or blank. -/
  | blankField (name : String)
  /-- A field that holds a list holds something else. -/
  | fieldNotList (name : String)
  /-- A command names a category that does not exist. -/
  | unknownCategory (command category : String)
  /-- An option is no object. -/
  | optionNotObject
  /-- An option has no spelling. -/
  | optionWithoutSpelling
  /-- Two options of a command share a spelling. -/
  | repeatedOption (command token : String)
  /-- A subcommand is no object. -/
  | subcommandNotObject
  /-- Two subcommands of a command share their name. -/
  | repeatedSubcommand (command : String)
  /-- A declared effect is no object. -/
  | effectNotObject
  /-- The declared effects are no object. -/
  | interactionsNotObject
  /-- The permission notes are no object. -/
  | permissionsNotObject
  /-- A pattern is no text. -/
  | patternNotText
  /-- A pattern cannot be read. -/
  | invalidPattern
  /-- A pattern has a number that is too large for a repetition or a character. -/
  | patternTooLarge
  /-- A pattern asks for two alphabets at once. -/
  | patternOfTwoAlphabets
  /-- A step expects no commands. -/
  | stepWithoutCommands (step lab : String)
  /-- The passing score of a step is no percentage. -/
  | passingScoreOutOfRange (step lab : String)
  /-- Two steps of a lab share their id. -/
  | repeatedStep (lab : String)
  /-- The initial state of a lab is no object. -/
  | initialStateNotObject (lab : String)
  /-- Two labs share their id. -/
  | repeatedLab (lab : String)
  /-- Two families share their id. -/
  | repeatedFamily (family : String)
deriving DecidableEq, Repr

namespace Defect

/-- The message for the author, for the rules that have one. -/
def message? : Defect → Option String
  | .recordNotObject kind => some s!"Definition record must be an object, got {kind}."
  | .blankField name => some s!"Record is missing required field '{name}'."
  | .fieldNotList name => some s!"Field '{name}' must be a list."
  | .unknownCategory command category =>
    some s!"Command '{command}' has unknown category '{category}'."
  | .optionNotObject => some "Option entries must be objects."
  | .optionWithoutSpelling => some "Option declares none of short, long or flag."
  | .repeatedOption command token =>
    some s!"Command '{command}' declares option '{token}' more than once."
  | .subcommandNotObject => some "Subcommand entries must be objects."
  | .repeatedSubcommand command => some s!"Command '{command}' declares duplicate subcommands."
  | .effectNotObject => some "State interaction entries must be objects."
  | .interactionsNotObject => some "state_interactions must be an object."
  | .permissionsNotObject => some "permissions must be an object."
  | .invalidPattern => some "Invalid hint pattern"
  | .stepWithoutCommands step lab =>
    some s!"Step '{step}' in lab '{lab}' has no expected commands."
  | .passingScoreOutOfRange step lab =>
    some s!"Step '{step}' in lab '{lab}' has passing_score outside 0-100."
  | .repeatedStep lab => some s!"Lab '{lab}' has duplicate step ids."
  | .initialStateNotObject lab => some s!"Lab '{lab}' initial_state must be an object."
  | .repeatedLab lab => some s!"Duplicate lab id: {lab}"
  | .repeatedFamily family => some s!"Duplicate family id: {family}"
  | _ => none

/-- Whether a catalogue passes over a record with this defect. -/
def isContained : Defect → Bool
  | .optionalFieldOfNonObject | .infiniteNumber => false
  | _ => true

end Defect

end ClusterTutor
