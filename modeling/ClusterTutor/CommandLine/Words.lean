/-!
# The words of a command line

A line is split into words as a shell does it. Words are separated by spaces, tabs and
line ends. Between single quotes every character stands for itself; between double
quotes so does every one but the backslash before a double quote or a backslash; and
outside quotes a backslash makes the next character an ordinary one. Quotes may open
and close inside a word, and an empty pair of them is an empty word.

A line that ends inside quotes, or after a backslash, has no words at all.
-/

namespace ClusterTutor.CommandLine

/-- Where in a line a character stands. -/
inductive Place where
  /-- Between words. -/
  | between
  /-- In a word, outside quotes. -/
  | inWord
  /-- Between single quotes. -/
  | inSingle
  /-- Between double quotes. -/
  | inDouble
deriving DecidableEq, Repr

/-- Whether a character separates words. -/
def isSeparator (c : Char) : Bool :=
  c == ' ' || c == '\t' || c == '\r' || c == '\n'

/-- The words of the rest of a line, where `word` holds what has been read of the
current word, the last character first. -/
def splitFrom : Place → List Char → List Char → Option (List String)
  | .between, _, [] => some []
  | .inWord, word, [] => some [String.ofList word.reverse]
  | .inSingle, _, [] => none
  | .inDouble, _, [] => none
  | .inSingle, word, c :: cs =>
    if c == '\'' then splitFrom .inWord word cs else splitFrom .inSingle (c :: word) cs
  | .inDouble, _, ['\\'] => none
  | .inDouble, word, '\\' :: c :: cs =>
    if c == '"' || c == '\\' then splitFrom .inDouble (c :: word) cs
    else splitFrom .inDouble (c :: '\\' :: word) cs
  | .inDouble, word, c :: cs =>
    if c == '"' then splitFrom .inWord word cs else splitFrom .inDouble (c :: word) cs
  | _, _, ['\\'] => none
  | _, word, '\\' :: c :: cs => splitFrom .inWord (c :: word) cs
  | place, word, c :: cs =>
    if isSeparator c then
      match place with
      | .inWord => (splitFrom .between [] cs).map (String.ofList word.reverse :: ·)
      | _ => splitFrom .between [] cs
    else if c == '\'' then splitFrom .inSingle word cs
    else if c == '"' then splitFrom .inDouble word cs
    else splitFrom .inWord (c :: word) cs

/-- The words of a line, unless it ends inside quotes or after a backslash. -/
def words? (line : String) : Option (List String) :=
  splitFrom .between [] line.toList

end ClusterTutor.CommandLine
