import ClusterTutor.Text.Digit

/-!
# Arguments

The program is started as `play` or as `help` with a topic; without words it plays. The
only option is the one for usage, `-h` or `--help`, which may be cut short, and it is
obeyed as soon as it is met. Any other option is wrong, but only after all arguments
have been looked at; a first word that is neither `play` nor `help` is wrong at once.

A `--` ends the options: what follows are words. A minus sign with digits is a word
everywhere, and so is an unknown option that holds a space.
-/

namespace ClusterTutor

/-- What the program is started for. -/
inductive Request where
  /-- To run the shell. -/
  | play
  /-- To print help, on a topic or on everything. -/
  | help (topic : Option String)
deriving DecidableEq, Repr

/-- What arguments ask for. -/
inductive Arguments where
  /-- A run of the program. -/
  | run (request : Request)
  /-- The usage. -/
  | usage
  /-- Nothing that could be done. -/
  | wrong
deriving DecidableEq, Repr

/-- What an argument before the end of the options is. -/
inductive ArgumentKind where
  /-- A word. -/
  | word
  /-- The option for usage. -/
  | usage
  /-- The option for usage with a value, which it does not take. -/
  | valuedUsage
  /-- An option that does not exist. -/
  | unknownOption
deriving DecidableEq, Repr

namespace ArgumentKind

/-- The kind of an argument `-h…`, by what follows the letter. Further letters `h` ask
for usage once more, and other letters are never looked at. -/
def ofShortTail : List Char → ArgumentKind
  | [] => .usage
  | 'h' :: cs => ofShortTail cs
  | c :: _ => if c = '-' || c = '=' then .valuedUsage else .usage

/-- Whether a text, without its minus sign, is a number: digits, or digits around a
point of which those before it may be left out. A line end may follow. -/
def isUnsignedNumber (cs : List Char) : Bool :=
  let cs := if cs.getLast? = some '\n' then cs.dropLast else cs
  let whole := cs.takeWhile Text.isDecimalDigit
  match cs.dropWhile Text.isDecimalDigit with
  | [] => !whole.isEmpty
  | '.' :: places => !places.isEmpty && places.all Text.isDecimalDigit
  | _ => false

/-- The kind of an argument `--…`, by what follows the dashes. -/
def ofLongTail (cs : List Char) : ArgumentKind :=
  let name := cs.takeWhile (· ≠ '=')
  if name.isPrefixOf "help".toList then
    if name.length = cs.length then .usage else .valuedUsage
  else if cs.contains ' ' then .word
  else .unknownOption

/-- The kind of an argument. -/
def of (argument : String) : ArgumentKind :=
  match argument.toList with
  | '-' :: '-' :: cs => ofLongTail cs
  | '-' :: 'h' :: cs => ofShortTail cs
  | '-' :: c :: cs =>
    if isUnsignedNumber (c :: cs) || (c :: cs).contains ' ' then .word else .unknownOption
  | _ => .word

end ArgumentKind

namespace Arguments

/-- Whether a word says what the program is started for. -/
def isCommand (word : String) : Bool := word == "play" || word == "help"

/-- What arguments ask for as far as options decide it. Unless `decided`, the next word
says what the program is started for; `wrong` says whether an unknown option was met. -/
def ofOptions (decided wrong : Bool) : List String → Option Arguments
  | [] => if wrong then some .wrong else none
  | a :: rest =>
    match ArgumentKind.of a with
    | .word => if decided || isCommand a then ofOptions true wrong rest else some .wrong
    | .usage => some .usage
    | .valuedUsage => some .wrong
    | .unknownOption => ofOptions decided true rest

/-- What words ask for. -/
def ofWords : List String → Option String → Arguments
  | [], _ => .run .play
  | command :: rest, topic =>
    if !isCommand command || 1 < rest.length then .wrong
    else if command == "play" then .run .play
    else .run (.help topic)

/-- The topic among words of which the last `free` stand after the end of the options:
a second `--` there is no topic, and neither is an empty word. -/
def topic? (words free : List String) : Option String :=
  match words.drop 1 with
  | [] => none
  | topic :: _ =>
    let isMark := topic == "--" && decide (words.length ≤ free.length + 1)
    if isMark || topic.isEmpty then none else some topic

/-- What arguments ask for. -/
def of (arguments : List String) : Arguments :=
  let before := arguments.takeWhile (· ≠ "--")
  let free := (arguments.dropWhile (· ≠ "--")).drop 1
  match ofOptions false false before with
  | some outcome => outcome
  | none => ofWords (before ++ free) (topic? (before ++ free) free)

end Arguments

end ClusterTutor
