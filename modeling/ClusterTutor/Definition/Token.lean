import ClusterTutor.Data.OrderedMap
import ClusterTutor.Definition.Basic

/-!
# Option tokens

An option may be written with any number of dashes and with an equals sign at its end.
Its *token* is what is left without them, and two spellings with the same token are
the same option.

Three questions are asked of a definition: is a token declared, by which option, and
does it take a value. The first and the second are answered from the first option that
declares the token, the third from the last one.
-/

namespace ClusterTutor

/-- A text without the dashes at its front. -/
def dropDashes (s : String) : List Char :=
  s.toList.dropWhile (· == '-')

/-- Characters without an equals sign at their end; only one is dropped. -/
def dropEquals (cs : List Char) : List Char :=
  if cs.getLast? = some '=' then cs.dropLast else cs

/-- The token of a spelling. -/
def tokenOf (s : String) : String :=
  String.ofList (dropEquals (dropDashes s))

namespace CommandOption

/-- The tokens of the declared spellings. -/
def tokens (o : CommandOption) : List String :=
  o.spellings.map tokenOf

end CommandOption

/-- For each declared token, whether it takes a value. -/
abbrev FlagSchema := OrderedMap String Bool

namespace Definition

/-- The tokens of all options, in order. -/
def tokens (d : Definition) : List String :=
  d.allOptions.flatMap CommandOption.tokens

/-- The first option that a spelling denotes. -/
def option? (d : Definition) (spelling : String) : Option CommandOption :=
  d.allOptions.find? fun o => o.tokens.contains (tokenOf spelling)

/-- Each declared token with whether it takes a value; of several declarations the last
one counts. -/
def schema (d : Definition) : FlagSchema :=
  .ofList (d.allOptions.flatMap fun o => o.tokens.map fun t => (t, o.takesValue))

/-- The schema, unless it is empty. -/
def schema? (d : Definition) : Option FlagSchema :=
  if d.schema.isEmpty then none else some d.schema

end Definition

end ClusterTutor
