import ClusterTutor.CommandLine.Words
import ClusterTutor.Definition.Token
import ClusterTutor.Number.Numeral
import ClusterTutor.Text.Blank

/-!
# Command lines

The first word of a line is the command. The words after it are read, from left to
right, as *parts*: flags, possibly with a value, ordinary words, and at most one `--`,
after which every word is an ordinary one. A flag has its value in the same word, after
an equals sign, or it takes the next word; whether it does is said by the schema of the
command, and guessed for flags that the schema does not know.

From the parts follow the three things that a command looks at: the map of its flags,
its *subcommands*, which are the ordinary words up to the first one that is a number or
an assignment, and its *positionals*, which are the ordinary words from there on.
Without a schema a flag, too, ends the subcommands.
-/

namespace ClusterTutor

/-- What is typed with a flag. -/
inductive FlagValue where
  /-- Nothing. -/
  | present
  /-- A value. -/
  | given (s : String)
deriving DecidableEq, Repr

namespace CommandLine

/-- A part of a line after the command. -/
inductive Part where
  /-- A flag without a value. -/
  | bare (name : String)
  /-- A flag with its value in the same word. -/
  | inline (name value : String)
  /-- A flag with its value in the next word. -/
  | separate (name value : String)
  /-- The two dashes after which there are no flags. -/
  | terminator
  /-- An ordinary word. -/
  | word (s : String)
deriving DecidableEq, Repr

/-! ### Words as flags -/

/-- Whether a word is a flag: a dash and more, and no number. -/
def isFlag (w : String) : Bool :=
  match w.toList with
  | '-' :: _ :: _ => !Numeral.isInteger w
  | _ => false

/-- Whether a word has two dashes at its front. -/
def isLong (w : String) : Bool :=
  match w.toList with
  | '-' :: '-' :: _ => true
  | _ => false

/-- The name of a flag: the word without its dashes. -/
def flagName (w : String) : String :=
  String.ofList (dropDashes w)

/-- The name and the value of a long flag that has its value in the same word. -/
def inlineValue? (w : String) : Option (String × String) :=
  if isLong w then
    let body := dropDashes w
    match body.dropWhile (· != '=') with
    | _ :: value => some (String.ofList (body.takeWhile (· != '=')), String.ofList value)
    | [] => none
  else none

/-- Whether a flag takes the next word as its value. -/
def takesNext (schema : Option FlagSchema) (flag next : String) : Bool :=
  if isFlag next then false
  else match schema.bind (·.get? (flagName flag)) with
    | some takes => takes
    | none => isLong flag || (flagName flag).length == 1

/-! ### Parts -/

/-- The parts of the words after the command. -/
def partsOf (schema : Option FlagSchema) : List String → List Part
  | [] => []
  | w :: ws =>
    if w = "--" then .terminator :: ws.map .word
    else if !isFlag w then .word w :: partsOf schema ws
    else match inlineValue? w with
      | some (name, value) => .inline name value :: partsOf schema ws
      | none =>
        match ws with
        | [] => [.bare (flagName w)]
        | next :: rest =>
          if takesNext schema w next then .separate (flagName w) next :: partsOf schema rest
          else .bare (flagName w) :: partsOf schema (next :: rest)

namespace Part

/-- The ordinary word that a part is. -/
def word? : Part → Option String
  | .word s => some s
  | _ => none

/-- The flag that a part is, with its value. -/
def flag? : Part → Option (String × FlagValue)
  | .bare name => some (name, .present)
  | .inline name value => some (name, .given value)
  | .separate name value => some (name, .given value)
  | _ => none

/-- Whether the subcommands end before a part. -/
def endsSubcommands (hasSchema : Bool) : Part → Bool
  | .word s => s.toList.contains '=' || Numeral.isInteger s
  | .terminator => false
  | _ => !hasSchema

end Part

end CommandLine

/-! ### Parsed lines -/

/-- A line taken apart. -/
structure ParsedLine where
  /-- The command; empty if the line has no words. -/
  command : String
  /-- The ordinary words that may be subcommands. -/
  subcommands : List String := []
  /-- The flags, with the value given last. -/
  flags : OrderedMap String FlagValue := .empty
  /-- The other ordinary words. -/
  positionals : List String := []

namespace ParsedLine

open CommandLine

/-- A line taken apart into a command and parts. -/
def ofParts (hasSchema : Bool) (command : String) (parts : List Part) : ParsedLine where
  command
  subcommands := (parts.takeWhile fun p => !p.endsSubcommands hasSchema).filterMap Part.word?
  flags := .ofList (parts.filterMap Part.flag?)
  positionals := (parts.dropWhile fun p => !p.endsSubcommands hasSchema).filterMap Part.word?

/-- A line taken apart from its words. -/
def ofWords (schema : Option FlagSchema) : List String → ParsedLine
  | [] => { command := "" }
  | w :: ws => ofParts schema.isSome w (partsOf schema ws)

/-- Takes a line apart. -/
def ofLine (schema : Option FlagSchema) (line : String) : ParsedLine :=
  ofWords schema ((words? (Text.trim line)).getD [])

/-- The ordinary words in order. -/
def words (p : ParsedLine) : List String :=
  p.subcommands ++ p.positionals

end ParsedLine

end ClusterTutor
