import ClusterTutor.Program

/-!
# The command line

Starts the program: takes up its arguments and its settings, and prints help or runs
the shell on the lines that are typed. What is printed, and what follows a line, is
decided elsewhere; here lines are read and texts are printed.

Progress is kept for as long as the program runs, and definitions are those that come
with it; a directory of other ones is refused.
-/

namespace ClusterTutor.Main

/-- How the program is used. -/
def usage : String :=
  "usage: cmdlab [-h] [\x7bplay,help\x7d] [topic]\n\n" ++
  "Simulated GPU cluster command lab\n\n" ++
  "positional arguments:\n  \x7bplay,help\x7d\n  topic        command name for `help`\n\n" ++
  "options:\n  -h, --help   show this help message and exit\n"

/-- What is said of a fault that ends the shell. -/
def faultMessage : ShellFault → String
  | .endOfInput => "There are no more lines."
  | .numeral _ => "A number cannot be read."
  | .line _ => "A number in the line is too long."
  | .unorderedNames => "The fields of a domain have no order."
  | .hint _ => "The hints of the step cannot be evaluated."
  | .store fault => fault.message?.getD "Progress cannot be recorded."
  | .unknownProfile id => s!"There is no profile {id.toInt}."
  | .unknownFamily family => s!"There is no family {family}."

/-- A line without the line end that was typed after it. -/
def withoutLineEnd (line : String) : String :=
  let cs := line.toList
  if cs.getLast? = some '\n' then String.ofList cs.dropLast else line

/-- The variables that the program is set up by. -/
def environment : IO (String → Option String) := do
  let names := [homeVariable, levelVariable, contentVariable]
  let given ← names.mapM fun name => return (name, ← IO.getEnv name)
  return fun name => (given.lookup name).join

/-- The moment now, where `start` is when the program was started. -/
def momentSince (start : Nat) : IO Moment := do
  let now ← IO.monoMsNow
  return Moment.after {} (.whole ((now - start) / 1000))

/-- Asks for lines until the shell ends, and answers the exit code. -/
partial def converse (start : Nat) (t : Tutor) (screen : Screen) : IO UInt32 := do
  IO.print screen.prompt
  (← IO.getStdout).flush
  let line ← (← IO.getStdin).getLine
  if line.isEmpty then
    IO.eprintln (faultMessage .endOfInput)
    return 1
  let turn := Shell.answer t screen (← momentSince start) (withoutLineEnd line)
  turn.printed.forM (IO.println ·)
  match turn.next with
  | .ask screen => converse start turn.tutor screen
  | .leave => return 0
  | .fail fault =>
    IO.eprintln (faultMessage fault)
    return 1

/-- Does what the program was started for. -/
def serve (t : Tutor) (request : Request) : IO UInt32 := do
  match request with
  | .help topic =>
    let (text, code) := Program.help t topic
    IO.println text
    return code.toUInt32
  | .play =>
    (Page.profiles t).forM (IO.println ·)
    converse (← IO.monoMsNow) t .profiles

end ClusterTutor.Main

open ClusterTutor in
/-- Starts the program. -/
def main (arguments : List String) : IO UInt32 := do
  match Arguments.of arguments with
  | .usage =>
    IO.print Main.usage
    return 0
  | .wrong =>
    IO.eprint Main.usage
    return 2
  | .run request =>
    match Settings.ofEnvironment (← Main.environment) with
    | .error fault =>
      IO.eprintln fault.message
      return 1
    | .ok settings =>
      match settings.contentDir with
      | none => Main.serve .standard request
      | some dir =>
        IO.eprintln s!"Definitions cannot be read from {dir.text}."
        return 1
