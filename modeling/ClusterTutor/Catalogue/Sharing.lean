import ClusterTutor.Catalogue.Basic

/-!
# Sharing one load

Loading a catalogue takes a while, and several callers may ask for it at once. They
share one load: the first caller starts it, and everybody who asks before it has ended
waits for its end. The load asks every source once, waits for all of them, and then
either stores the whole catalogue or fails; a failed load fails everybody who waits for
it, and everybody who asks later.

The load is described as a machine that is driven by events, so that any interleaving
of callers and sources is a list of events. Lookups are answered from
`ClusterTutor.Loading.visible` at any moment.
-/

namespace ClusterTutor

/-- What can happen while a catalogue is being loaded. -/
inductive LoadEvent where
  /-- A caller asks for the catalogue. -/
  | call (caller : Nat)
  /-- The source with an index delivers. -/
  | deliver (index : Nat)
  /-- The load takes up what was delivered, if everything was. -/
  | complete
deriving DecidableEq, Repr

/-- How far a load is. -/
inductive LoadPhase where
  /-- Nobody has asked yet. -/
  | idle
  /-- Some sources, marked `true`, have delivered, and some callers wait. -/
  | running (delivered : List Bool) (waiting : List Nat)
  /-- The load has ended. -/
  | ended (outcome : Except Defect Catalogue.Loaded)

/-- A load and what it has answered. -/
structure Loading where
  /-- What each source delivers when it is asked. -/
  sources : List Delivery
  /-- How often each source was asked. -/
  asked : List Nat
  /-- How far the load is. -/
  phase : LoadPhase
  /-- The answers that callers have got, the latest first. -/
  answers : List (Nat × Except Defect Catalogue.Loaded)

namespace Loading

/-- A load that nobody has asked for. -/
def ofSources (sources : List Delivery) : Loading where
  sources
  asked := sources.map fun _ => 0
  phase := .idle
  answers := []

/-- The load after an event. -/
def step (l : Loading) : LoadEvent → Loading
  | .call caller =>
    match l.phase with
    | .idle => { l with
        asked := l.asked.map (· + 1)
        phase := .running (l.sources.map fun _ => false) [caller] }
    | .running delivered waiting =>
      { l with phase := .running delivered (waiting ++ [caller]) }
    | .ended outcome => { l with answers := (caller, outcome) :: l.answers }
  | .deliver index =>
    match l.phase with
    | .running delivered waiting =>
      { l with phase := .running (delivered.set index true) waiting }
    | _ => l
  | .complete =>
    match l.phase with
    | .running delivered waiting =>
      if delivered.all id then
        let outcome := Catalogue.ofDeliveries l.sources
        { l with
          phase := .ended outcome
          answers := (waiting.map fun caller => (caller, outcome)).reverse ++ l.answers }
      else l
    | _ => l

/-- The load after a list of events. -/
def run (l : Loading) (events : List LoadEvent) : Loading :=
  events.foldl step l

/-- The catalogue that lookups see. -/
def visible (l : Loading) : Catalogue :=
  match l.phase with
  | .ended (.ok loaded) => loaded.catalogue
  | _ => .unloaded

/-- The answer that a caller has got last. -/
def answer? (l : Loading) (caller : Nat) : Option (Except Defect Catalogue.Loaded) :=
  l.answers.lookup caller

/-- The events of `callers` callers who all ask before the sources deliver, in order,
and of `more` callers who ask after the load has ended. -/
def together (sources callers more : Nat) : List LoadEvent :=
  (List.range callers).map .call ++ (List.range sources).map .deliver ++ [.complete] ++
    (List.range more).map fun i => .call (callers + i)

end Loading

end ClusterTutor
