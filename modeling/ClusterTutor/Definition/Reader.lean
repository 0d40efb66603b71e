import ClusterTutor.Data.Field
import ClusterTutor.Definition.Token
import ClusterTutor.Text.Order

/-!
# Reading definitions

A definition is read from a record. Texts are taken from values of any kind, and most
fields may be left out; what a record may not do is leave out the names of things,
hold something else where a list or an object belongs, use a category that does not
exist, declare an option or a subcommand twice, or hold a number without a text where a
text belongs.

`ClusterTutor.Definition.ofValue` answers the definition or the first defect.
-/

namespace ClusterTutor

namespace Value

/-- The list in a field of a record; a field that is absent or null holds none. -/
def listField (fields : List (String × Value)) (name : String) : Except Defect (List Value) :=
  match fields.lookup name with
  | none => .ok []
  | some .null => .ok []
  | some (.array items) => .ok items
  | some _ => .error (.fieldNotList name)

/-- The text of a value without the blanks around it, if there is a value and anything
is left of it. -/
def trimmed? : Option Value → Except Defect (Option String)
  | none => .ok none
  | some .null => .ok none
  | some v => do
    let s := Text.trim (← v.toText)
    return if s.isEmpty then none else some s

/-- The text in a field of a record without the blanks around it, if anything is
left. -/
def trimmedField (fields : List (String × Value)) (name : String) :
    Except Defect (Option String) :=
  trimmed? (fields.lookup name)

/-- The text in a field that every record needs, without the blanks around it. -/
def nameField (fields : List (String × Value)) (name : String) : Except Defect String :=
  match fields.lookup name with
  | some (.string s) =>
    if Text.isBlankText s then .error (.blankField name) else .ok (Text.trim s)
  | _ => .error (.blankField name)

/-- The text in a field of a record, or a text in its place. -/
def textOr (fields : List (String × Value)) (name default : String) : Except Defect String :=
  match fields.lookup name with
  | some v => v.toText
  | none => .ok default

end Value

/-- What an option says of its value: a text names it, and `true` means a value
without a name. -/
def CommandOption.argumentsOf : Option Value → Except Defect (Option String)
  | some (.bool b) => .ok (if b then some "VALUE" else none)
  | v => Value.trimmed? v

/-- Reads an option. -/
def CommandOption.ofValue : Value → Except Defect CommandOption
  | .object fields => do
    let description ← Value.textOr fields "description" ""
    let short ← Value.trimmedField fields "short"
    let long ← Value.trimmedField fields "long"
    let flag ← Value.trimmedField fields "flag"
    let arguments ← argumentsOf (fields.lookup "arguments")
    let argumentType ← Value.trimmedField fields "argument_type"
    let default ← Value.trimmedField fields "default"
    let sample ← Value.trimmedField fields "example"
    let o : CommandOption := {
      description, short, long, flag, arguments, argumentType, default, sample }
    if o.spellings.isEmpty then .error .optionWithoutSpelling else .ok o
  | _ => .error .optionNotObject

/-- Reads a subcommand. -/
def Subcommand.ofValue : Value → Except Defect Subcommand
  | .object fields => do
    let name ← Value.nameField fields "name"
    let description ← Value.textOr fields "description" ""
    let options ← (← Value.listField fields "options").mapM CommandOption.ofValue
    return { name, description, options }
  | _ => .error .subcommandNotObject

/-- Reads an exit code. -/
def ExitCode.ofValue (v : Value) : Except Defect ExitCode := do
  let code ← (← v.required "code").toInt
  return { code, meaning := ← v.textField "meaning" "" }

/-- Reads a typical command line. -/
def UsagePattern.ofValue (v : Value) : Except Defect UsagePattern := do
  let command ← (← v.required "command").toText
  let description ← v.textField "description" ""
  return { command, description, requiresRoot := (← v.optional "requires_root").any Value.truthy }

/-- Reads an error message. -/
def KnownError.ofValue (v : Value) : Except Defect KnownError := do
  let message ← (← v.required "message").toText
  let meaning ← v.textField "meaning" ""
  return { message, meaning, resolution := ← Value.trimmed? (← v.optional "resolution") }

/-- Reads an effect. -/
def Effect.ofValue : Value → Except Defect Effect
  | .object fields => do
    let flags ← match fields.lookup "requires_flags" with
      | none => pure none
      | some .null => pure none
      | some _ =>
        let names ← Value.listField fields "requires_flags"
        let texts ← names.mapM Value.toText
        pure (some (texts.map tokenOf))
    let domain ← Value.nameField fields "state_domain"
    let written ← (← Value.listField fields "fields").mapM Value.toText
    let privilege ← Value.trimmedField fields "requires_privilege"
    return { domain, flags, fields := written, privilege }
  | _ => .error .effectNotObject

/-- Reads the effects of a command. -/
def Interactions.ofValue? : Option Value → Except Defect (Option Interactions)
  | none => .ok none
  | some .null => .ok none
  | some (.object fields) => do
    let reads ← (← Value.listField fields "reads_from").mapM Effect.ofValue
    let writes ← (← Value.listField fields "writes_to").mapM Effect.ofValue
    return some { reads, writes }
  | some _ => .error .interactionsNotObject

/-- Reads the notes on who may use a tool. -/
def PermissionNotes.ofValue? : Option Value → Except Defect (Option PermissionNotes)
  | none => .ok none
  | some .null => .ok none
  | some (.object fields) => do
    let read ← Value.trimmedField fields "read_operations"
    let write ← Value.trimmedField fields "write_operations"
    let notes ← Value.trimmedField fields "notes"
    return some { read, write, notes }
  | some _ => .error .permissionsNotObject

/-- The first token that an option shares with one before it. -/
def repeatedToken? : List CommandOption → Option String
  | options => go [] options
where
  /-- The first token of the options that is among those already seen. -/
  go (seen : List String) : List CommandOption → Option String
    | [] => none
    | o :: os =>
      match o.tokens.find? seen.contains with
      | some t => some t
      | none => go (seen ++ o.tokens) os

namespace Definition

/-- Reads a definition. -/
def ofValue (v : Value) : Except Defect Definition :=
  match v with
  | .object fields => do
    let command ← Value.nameField fields "command"
    let category ← Value.textOr fields "category" "general"
    unless categories.contains category do throw (.unknownCategory command category)
    let options ← (← Value.listField fields "global_options").mapM CommandOption.ofValue
    if let some token := repeatedToken? options then throw (.repeatedOption command token)
    let subcommands ← (← Value.listField fields "subcommands").mapM Subcommand.ofValue
    unless Text.allDistinct (subcommands.map Subcommand.name) do throw (.repeatedSubcommand command)
    let description ← Value.textOr fields "description" ""
    let synopsis ← Value.textOr fields "synopsis" command
    let exitCodes ← (← Value.listField fields "exit_codes").mapM ExitCode.ofValue
    let usage ← (← Value.listField fields "common_usage_patterns").mapM UsagePattern.ofValue
    let errors ← (← Value.listField fields "error_messages").mapM KnownError.ofValue
    let interactions ← Interactions.ofValue? (fields.lookup "state_interactions")
    let permissions ← PermissionNotes.ofValue? (fields.lookup "permissions")
    return {
      command, category, description, synopsis, options, subcommands, exitCodes, usage, errors,
      interactions, permissions }
  | v => .error (.recordNotObject v.kindName)

end Definition

end ClusterTutor
