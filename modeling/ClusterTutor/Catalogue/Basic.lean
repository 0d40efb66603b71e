import ClusterTutor.Definition.Reader
import ClusterTutor.Text.Order

/-!
# The catalogue of commands

A catalogue holds the definitions that a session works with, each under the name of
its command. Before it is loaded it is empty, and nothing that is typed is held against
the learner; once it is loaded it never changes.

`ClusterTutor.Catalogue.ofDeliveries` builds the loaded catalogue from what the sources
delivered. Records are taken in order, and of several definitions of one command the
first one is kept. What is passed over – sources that failed, defective records and
later definitions – is counted and reported, each once.
-/

namespace ClusterTutor

/-- The definitions at hand, in the order in which they were loaded. -/
structure Catalogue where
  /-- Whether loading has been completed. -/
  isLoaded : Bool
  /-- The definitions by command. -/
  definitions : OrderedMap String Definition

/-- Why a source delivered nothing. -/
inductive SourceFault where
  /-- The source could not be read. -/
  | unavailable
  /-- The source is no text. -/
  | notText
  /-- The source is no document. -/
  | notDocument
  /-- The source has a whole number with too many digits. -/
  | numeralTooLong
deriving DecidableEq, Repr

/-- What a source delivered: one record or a list of records. -/
abbrev Delivery := Except SourceFault Value

/-- What is reported of a load. -/
inductive Notice where
  /-- The source with an index delivered nothing. -/
  | skippedSource (index : Nat) (fault : SourceFault)
  /-- A record is defective. -/
  | skippedRecord (defect : Defect)
  /-- A command has a definition already. -/
  | repeatedDefinition (command : String)
  /-- The load is complete. -/
  | loaded (count skipped : Nat)
deriving DecidableEq, Repr

namespace Notice

/-- How important a report is. -/
def level : Notice → String
  | .loaded _ _ => "INFO"
  | _ => "WARNING"

/-- A report as text, with words for the faults of sources and for defects. -/
def text (ofFault : SourceFault → String) (ofDefect : Defect → String) : Notice → String
  | .skippedSource index fault => s!"Skipping definition source {index}: {ofFault fault}"
  | .skippedRecord defect => s!"Skipping malformed definition record: {ofDefect defect}"
  | .repeatedDefinition command =>
    s!"Duplicate definition for '{command}'; keeping the first."
  | .loaded count skipped => s!"Loaded {count} command definitions ({skipped} skipped)."

end Notice

namespace Catalogue

/-- The catalogue before it is loaded. -/
def unloaded : Catalogue := ⟨false, .empty⟩

/-- The definition of a command. -/
def get? (c : Catalogue) (command : String) : Option Definition :=
  c.definitions.get? command

/-- Whether a command is defined. -/
def has (c : Catalogue) (command : String) : Bool :=
  c.definitions.contains command

/-- How many commands are defined. -/
def size (c : Catalogue) : Nat :=
  c.definitions.size

/-- The names of the commands in order. -/
def names (c : Catalogue) : List String :=
  Text.sorted c.definitions.keys

/-- The definitions of a category, in the order of their names. -/
def byCategory (c : Catalogue) (category : String) : List Definition :=
  (c.names.filterMap c.get?).filter fun d => d.category == category

/-! ### Loading -/

/-- What a load has come to. -/
structure Progress where
  /-- The definitions so far. -/
  definitions : OrderedMap String Definition
  /-- How many sources and records were passed over. -/
  skipped : Nat
  /-- The reports so far, the latest first. -/
  reports : List Notice

/-- A load that has not begun. -/
def Progress.start : Progress := ⟨.empty, 0, []⟩

/-- A load after something was passed over. -/
def Progress.skip (p : Progress) (n : Notice) : Progress :=
  { p with skipped := p.skipped + 1, reports := n :: p.reports }

/-- A load after one more record. -/
def Progress.addRecord (p : Progress) (record : Value) : Except Defect Progress :=
  match Definition.ofValue record with
  | .error defect =>
    if defect.isContained then .ok (p.skip (.skippedRecord defect)) else .error defect
  | .ok d =>
    if p.definitions.contains d.command then .ok (p.skip (.repeatedDefinition d.command))
    else .ok { p with definitions := p.definitions.insert d.command d }

/-- The records of a delivered value. -/
def recordsOf : Value → List Value
  | .array records => records
  | record => [record]

/-- A load after one more source, the one with index `index`. -/
def Progress.addDelivery (p : Progress) (index : Nat) (d : Delivery) : Except Defect Progress :=
  match d with
  | .error fault => .ok (p.skip (.skippedSource index fault))
  | .ok v => (recordsOf v).foldlM addRecord p

/-- A load after several more sources, of which the first has index `index`. -/
def Progress.addDeliveries (p : Progress) (index : Nat) : List Delivery → Except Defect Progress
  | [] => .ok p
  | d :: ds => do (← p.addDelivery index d).addDeliveries (index + 1) ds

/-- A loaded catalogue with the reports of its load. -/
structure Loaded where
  /-- The catalogue. -/
  catalogue : Catalogue
  /-- What was reported, in order. -/
  reports : List Notice

/-- The catalogue of what the sources delivered. -/
def ofDeliveries (ds : List Delivery) : Except Defect Loaded := do
  let p ← Progress.start.addDeliveries 0 ds
  return {
    catalogue := ⟨true, p.definitions⟩
    reports := (Notice.loaded p.definitions.size p.skipped :: p.reports).reverse }

/-- A loaded catalogue with given definitions. -/
def ofDefinitions (ds : List Definition) : Catalogue :=
  ⟨true, .ofList (ds.map fun d => (d.command, d))⟩

end Catalogue

end ClusterTutor
