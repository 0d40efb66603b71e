import ClusterTutor.Text.Case
import ClusterTutor.Text.Column
import ClusterTutor.Text.Search
import ClusterTutor.Validation

/-!
# Help texts

The help page of a command is drawn from its definition. Long lists are cut, with a line
that says how many entries are missing, and long descriptions are cut to their column.
Messages about rejected words show the suggestions in the spelling in which they are
declared.
-/

namespace ClusterTutor

namespace Help

/-- How many options a page shows. -/
def maxOptions : Nat := 10

/-- How many subcommands a page shows. -/
def maxSubcommands : Nat := 8

/-- How many usage patterns a page shows. -/
def maxUsage : Nat := 5

/-- How many exit codes a page shows. -/
def maxExitCodes : Nat := 6

/-- How many error messages a page shows. -/
def maxErrors : Nat := 3

/-- A spelling without the equals signs at its end. -/
def withoutEquals (s : String) : String :=
  String.ofList (s.toList.reverse.dropWhile (· == '=')).reverse

/-- An option as it is listed: its spellings and the name of its value. -/
def optionLabel (o : CommandOption) : String :=
  let filled : Option String → Option String := fun s => s.filter fun t => !t.isEmpty
  let spellings := (filled o.short).toList.map (fun s => "-" ++ tokenOf s) ++
    (filled o.long).toList.map (fun s => "--" ++ tokenOf s)
  let spellings := if spellings.isEmpty then (filled o.flag).toList.map withoutEquals else spellings
  let value := (filled o.arguments).elim "" (" " ++ ·)
  ", ".intercalate spellings ++ value

/-- A section of a page: a title, lines for the first entries, and a line for the
entries that are not shown. -/
def sectionLines {α : Type} (title : String) (limit : Nat) (more : Option String)
    (lines : α → List String) (entries : List α) : List String :=
  if entries.isEmpty then []
  else
    let hidden := entries.length - limit
    "" :: title :: (entries.take limit).flatMap lines ++
      match more with
      | some what => if 0 < hidden then [s!"  +{hidden} more {what}"] else []
      | none => []

end Help

open Help

namespace Definition

/-- The lines of the help page of a command. -/
def helpLines (d : Definition) : List String :=
  [s!"{d.command} - {d.description}", "", "Usage:", s!"  {d.synopsis}"] ++
  sectionLines "Options:" maxOptions (some "options")
    (fun o => [s!"  {Text.padRight 25 (optionLabel o)} {Text.truncate 60 o.description}"])
    d.options ++
  sectionLines "Subcommands:" maxSubcommands (some "subcommands")
    (fun s => [s!"  {Text.padRight 15 s.name} {Text.truncate 50 s.description}"])
    d.subcommands ++
  sectionLines "Examples:" maxUsage none
    (fun u => [s!"  {u.command}", s!"    {u.description}"] ++
      if u.requiresRoot then ["    (requires root)"] else [])
    d.usage ++
  sectionLines "Exit codes:" maxExitCodes none
    (fun e => [s!"  {Text.padRight 5 (toString e.code)} {e.meaning}"])
    d.exitCodes ++
  sectionLines "Common errors:" maxErrors none
    (fun e => [s!"  {Text.truncate 50 e.message}", s!"    Meaning: {e.meaning}"] ++
      ((e.resolution.filter fun r => !r.isEmpty).elim [] fun r =>
        [s!"    Fix: {Text.truncate 70 r}"]))
    d.errors

/-- The help page of a command. -/
def helpPage (d : Definition) : String :=
  "\n".intercalate d.helpLines ++ "\n"

/-- The help text of a flag. -/
def flagHelp (d : Definition) (flag : String) : String :=
  match d.option? flag with
  | none => s!"Unknown flag: {flag}"
  | some o =>
    "\n".intercalate ([optionLabel o, s!"  {o.description}"] ++
      ((o.sample.filter fun s => !s.isEmpty).elim [] fun s => [s!"  Example: {s}"]))

/-- The meaning of an exit code. -/
def exitCodeMeaning (d : Definition) (code : Int) : String :=
  match d.exitCodes.find? fun e => e.code == code with
  | some e => e.meaning
  | none => s!"Unknown exit code: {code}"

/-- What to do about the first error message of which the beginning occurs in a text. -/
def resolution? (d : Definition) (errorText : String) : Option String :=
  let lowered := (Text.lower errorText).toList
  (d.errors.find? fun e => Text.occursIn ((Text.lower e.message).toList.take 30) lowered).bind
    KnownError.resolution

end Definition

/-! ### Rejected words -/

/-- What a rejected word was meant to be. -/
inductive WordKind where
  /-- A flag. -/
  | option
  /-- A subcommand, or anything else that is written without dashes. -/
  | other (name : String)
deriving DecidableEq, Repr

namespace WordKind

/-- The name of the kind in messages. -/
def name : WordKind → String
  | .option => "option"
  | .other name => name

end WordKind

/-- A token as a flag: one dash before a single letter, two before anything longer. -/
def dashed (token : String) : String :=
  if token.length == 1 then "-" ++ token else "--" ++ token

/-- A suggested word in the spelling in which it is declared. -/
def suggestedSpelling (word : String) (kind : WordKind) (d : Option Definition) : String :=
  match kind with
  | .other _ => word
  | .option =>
    match d.bind (·.option? word) with
    | none => dashed word
    | some o =>
      let spelled : Option String → Bool := fun s =>
        s.any fun t => !t.isEmpty && tokenOf t == word
      if spelled o.short then "-" ++ word
      else if spelled o.long then "--" ++ word
      else match o.flag.filter fun f => !f.isEmpty with
        | some f => withoutEquals f
        | none => dashed word

/-- The message about a rejected word. -/
def rejection (command word : String) (verdict : Verdict) (kind : WordKind)
    (d : Option Definition) : String :=
  let shown := match kind with
    | .option => if word.toList.head? == some '-' then word else "--" ++ word
    | .other _ => word
  let message := s!"{command}: unrecognized {kind.name} '{shown}'"
  match verdict.suggestions with
  | [] => message
  | first :: others =>
    let message := message ++ s!"\nDid you mean '{suggestedSpelling first kind d}'?"
    if others.isEmpty then message
    else message ++ " Other close matches: " ++ ", ".intercalate others

end ClusterTutor
