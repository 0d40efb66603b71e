import ClusterTutor.Definition.Token
import ClusterTutor.Text.Case
import ClusterTutor.Text.Search

/-!
# Privilege and footprint of an invocation

Two questions are settled from the definition and the flags alone, before anything is
run: does the invocation need root privilege, and which state domains does it touch.

An effect without a list of flags applies always; one with a list applies when any of
its flags is given, in any spelling. Root privilege is needed by the writes that declare
it. Older definitions say in words that writing needs root; for them a fixed list of
flags is known to write.
-/

namespace ClusterTutor

/-- Flags that write, on tools that only say in words that writing needs root. -/
def knownWriteFlags : List String :=
  ["c", "e", "lgc", "mig", "pl", "pm", "r", "rgc"]

namespace Effect

/-- Whether an effect applies when flags are given. -/
def applies (e : Effect) (flags : List String) : Bool :=
  match e.flags with
  | none => true
  | some needed => needed.any (flags.map tokenOf).contains

/-- Whether an effect needs root privilege. -/
def needsRoot (e : Effect) : Bool :=
  e.privilege == some rootPrivilege

end Effect

/-- Texts without repetitions, in the order of their first occurrence. -/
def firstOccurrences (xs : List String) : List String :=
  xs.eraseDups

/-- The state domains that an invocation touches. -/
structure Footprint where
  /-- The domains it reads. -/
  reads : List String
  /-- The domains it writes. -/
  writes : List String
deriving DecidableEq, Repr

namespace Definition

/-- Whether the notes say that writing needs root. -/
def writeNeedsRoot (d : Definition) : Bool :=
  (d.permissions.bind PermissionNotes.write).any fun s =>
    Text.occursIn rootPrivilege.toList (Text.lower s).toList

/-- Whether a flag needs root privilege. -/
def flagNeedsRoot (d : Definition) (flag : String) : Bool :=
  d.writes.any (fun e => e.needsRoot && e.flags.all (·.contains (tokenOf flag))) ||
    (d.writeNeedsRoot && knownWriteFlags.contains (tokenOf flag))

/-- Whether an invocation with flags needs root privilege. -/
def needsRoot (d : Definition) (flags : List String) : Bool :=
  flags.any (fun f => d.flagNeedsRoot (tokenOf f)) ||
    d.writes.any fun e => e.needsRoot && e.flags.isNone

/-- The domains that an invocation with flags touches, in the order of declaration. -/
def footprint (d : Definition) (flags : List String) : Footprint where
  reads := firstOccurrences ((d.reads.filter (·.applies flags)).map Effect.domain)
  writes := firstOccurrences ((d.writes.filter (·.applies flags)).map Effect.domain)

end Definition

end ClusterTutor
