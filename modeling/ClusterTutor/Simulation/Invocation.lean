import ClusterTutor.CommandLine.Basic
import ClusterTutor.Data.Field
import ClusterTutor.Privilege

/-!
# Invocations

An invocation is what the engine is given of a command line: its flags by token, its
subcommands, and the values that its writes carry. A value is supplied under the name
of a field together with its domain, or under the name of the field alone.

`ClusterTutor.Invocation.ofLine` resolves a parsed line. Each write effect that applies
gets one value: that of the first of its flags that is given; for an effect without
flags the first ordinary word after the subcommand; and `true` where nothing else is
said. A word that spells a whole number becomes one.
-/

namespace ClusterTutor

/-- The name under which a value for one field of one domain is supplied. -/
def qualifiedName (domain field : String) : String :=
  domain ++ "." ++ field

/-- What the engine is given of a command line. -/
structure Invocation where
  /-- The flags by token. -/
  flags : OrderedMap String Value := .empty
  /-- The subcommands. -/
  subcommands : List String := []
  /-- The values for fields. -/
  values : OrderedMap String Value := .empty
deriving Inhabited

/-- Whether two maps bind the same keys to the same values, in any order. -/
def sameEntries (m n : OrderedMap String Value) : Bool :=
  m.size == n.size && m.toList.all fun e => (n.get? e.1).any (e.2.same ·)

namespace Invocation

/-- An invocation with flags in any spelling; of two spellings of one flag the later
one counts. -/
def make (flags : List (String × Value)) (subcommands : List String)
    (values : OrderedMap String Value) : Invocation where
  flags := .ofList (flags.map fun f => (tokenOf f.1, f.2))
  subcommands
  values

/-- Whether two invocations say the same. -/
def same (a b : Invocation) : Bool :=
  sameEntries a.flags b.flags && a.subcommands == b.subcommands && sameEntries a.values b.values

/-- The value supplied for a field of a domain. -/
def supplied? (i : Invocation) (domain field : String) : Option Value :=
  match i.values.get? (qualifiedName domain field) with
  | some v => some v
  | none => i.values.get? field

/-! ### From a parsed line -/

/-- A typed word as a value: a whole number if it spells one. -/
def valueOfWord (w : String) : Except Numeral.Fault Value :=
  if Numeral.isInteger w then (Numeral.readInt w).map .int else .ok (.string w)

/-- The value that a write effect carries, given the flags of a line and the ordinary
words after its subcommand. -/
def effectValue (needed : List String) (flags : OrderedMap String FlagValue)
    (words : List String) : Except Numeral.Fault Value :=
  match needed.findSome? flags.get? with
  | some (.given s) => valueOfWord s
  | some .present => .ok (.bool true)
  | none =>
    match words.head? with
    | some w => valueOfWord w
    | none => .ok (.bool true)

/-- The values that the write effects of a command carry; of two effects on one field
the later one counts. -/
def effectValues (flags : OrderedMap String FlagValue) (words : List String) :
    List Effect → OrderedMap String Value → Except Numeral.Fault (OrderedMap String Value)
  | [], values => .ok values
  | e :: es, values =>
    if e.applies flags.keys then
      match effectValue (e.flags.getD []) flags words with
      | .error fault => .error fault
      | .ok v =>
        effectValues flags words es
          (values.insertAll (e.fields.map fun f => (qualifiedName e.domain f, v)))
    else effectValues flags words es values

/-- A flag value for the engine. -/
def flagValue : FlagValue → Value
  | .present => .bool true
  | .given s => .string s

/-- The subcommands of a line for a command, and the ordinary words after them. -/
def splitWords (d : Definition) (p : ParsedLine) : List String × List String :=
  if d.subcommands.isEmpty then ([], p.words)
  else (p.subcommands.take 1, p.subcommands.drop 1 ++ p.positionals)

/-- Resolves a parsed line for a command. -/
def ofLine (d : Definition) (p : ParsedLine) : Except Numeral.Fault Invocation := do
  let (subcommands, words) := splitWords d p
  let values ← effectValues p.flags words d.writes .empty
  return make (p.flags.toList.map fun f => (f.1, flagValue f.2)) subcommands values

end Invocation

end ClusterTutor
