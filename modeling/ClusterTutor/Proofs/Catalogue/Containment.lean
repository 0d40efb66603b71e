import ClusterTutor.Catalogue.Sharing
import ClusterTutor.Proofs.Definition.Defects

/-!
# What a load survives

A load goes through the sources in order, and through the records of each. A source that
failed is reported and passed over, and so is a record that is defective, unless the defect
is one that is not contained. This module follows a load through all its records:

* as long as no record ends it, the load goes on, and binds every command to its first
  well-formed record (`ClusterTutor.Catalogue.Progress.exists_addDeliveries`);
* the first record that ends it ends it for everybody
  (`ClusterTutor.Catalogue.Progress.addDeliveries_of_endsLoad`).

So one bad record does take down the catalogue if an infinite exit code is the first thing
that is wrong with it, and no other does
(`ClusterTutor.Loading.completes_iff`).
-/

namespace ClusterTutor

namespace Catalogue

/-- The records that sources delivered, in order. -/
def deliveredRecords (ds : List Delivery) : List Value :=
  ds.flatMap fun d =>
    match d with
    | .ok v => recordsOf v
    | .error _ => []

theorem deliveredRecords_cons (d : Delivery) (ds : List Delivery) :
    deliveredRecords (d :: ds) = deliveredRecords [d] ++ deliveredRecords ds := by
  simp [deliveredRecords]

theorem deliveredRecords_ok (v : Value) : deliveredRecords [.ok v] = recordsOf v := by
  simp [deliveredRecords]

/-- The definition of a command that a record holds. -/
def definitionIn? (command : String) (record : Value) : Option Definition :=
  (Definition.ofValue record).toOption.filter fun d => d.command == command

/-- The definition in the first well-formed record of a command. -/
def firstDefinition? (records : List Value) (command : String) : Option Definition :=
  records.findSome? (definitionIn? command)

theorem firstDefinition?_append (records more : List Value) (command : String) :
    firstDefinition? (records ++ more) command =
      (firstDefinition? records command).or (firstDefinition? more command) :=
  List.findSome?_append

theorem firstDefinition?_singleton {r : Value} {d : Definition}
    (h : Definition.ofValue r = .ok d) (command : String) :
    firstDefinition? [r] command = if d.command = command then some d else none := by
  by_cases hcommand : d.command = command
  · simp [firstDefinition?, definitionIn?, h, hcommand, Except.toOption, Option.filter]
  · simp [firstDefinition?, definitionIn?, h, hcommand, Except.toOption, Option.filter]

namespace Progress

variable {p p' p'' : Progress} {records more : List Value} {r : Value}

/-- **What a load has taken up** with some more records: a command that had no definition
has the first one that is well-formed, what was reported before still is, and so is every
defective record. -/
structure TakesUp (p : Progress) (records : List Value) (p' : Progress) : Prop where
  /-- Commands have their first definitions. -/
  definitions : ∀ command, p'.definitions.get? command =
    (p.definitions.get? command).or (firstDefinition? records command)
  /-- Reports are kept. -/
  reports : ∀ n ∈ p.reports, n ∈ p'.reports
  /-- Defective records are reported. -/
  defective : ∀ r ∈ records, ∀ e, Definition.ofValue r = .error e →
    Notice.skippedRecord e ∈ p'.reports

namespace TakesUp

theorem refl (p : Progress) : p.TakesUp [] p where
  definitions command := by simp [firstDefinition?]
  reports _ h := h
  defective r h := by simp at h

theorem trans (h : p.TakesUp records p') (h' : p'.TakesUp more p'') :
    p.TakesUp (records ++ more) p'' where
  definitions command := by
    rw [h'.definitions, h.definitions, firstDefinition?_append, Option.or_assoc]
  reports n hn := h'.reports n (h.reports n hn)
  defective r hr e he := by
    rcases List.mem_append.1 hr with hr | hr
    · exact h'.reports _ (h.defective r hr e he)
    · exact h'.defective r hr e he

/-- Something that was passed over and defines nothing is only reported. -/
theorem skip (n : Notice) : p.TakesUp [] (p.skip n) where
  definitions command := by simp [firstDefinition?, Progress.skip]
  reports _ h := List.mem_cons_of_mem _ h
  defective r h := by simp at h

/-- A defective record is reported. -/
theorem skip_defective {e : Defect} (hr : Definition.ofValue r = .error e) :
    p.TakesUp [r] (p.skip (.skippedRecord e)) := by
  refine ⟨fun command => ?_, fun n hn => List.mem_cons_of_mem _ hn, fun r' hr' e' he' => ?_⟩
  · simp [firstDefinition?, definitionIn?, hr, Progress.skip, Except.toOption]
  · obtain rfl := List.mem_singleton.1 hr'
    obtain rfl : e = e' := Except.error.inj (hr.symm.trans he')
    exact List.mem_cons_self

/-- A well-formed record is taken up if its command gets its definition, or has one. -/
theorem of_ofValue {d : Definition} (hr : Definition.ofValue r = .ok d)
    (hdefinitions : ∀ command, p'.definitions.get? command =
      (p.definitions.get? command).or (if d.command = command then some d else none))
    (hreports : ∀ n ∈ p.reports, n ∈ p'.reports) : p.TakesUp [r] p' where
  definitions command := by rw [hdefinitions, firstDefinition?_singleton hr]
  reports := hreports
  defective r' hr' e he := by
    rw [List.mem_singleton.1 hr', hr] at he
    simp at he

/-- A further definition of a command is only reported. -/
theorem skip_repeated {d : Definition} (hr : Definition.ofValue r = .ok d)
    (hknown : p.definitions.contains d.command = true) :
    p.TakesUp [r] (p.skip (.repeatedDefinition d.command)) := by
  refine of_ofValue hr (fun command => ?_) fun n hn => List.mem_cons_of_mem _ hn
  by_cases hcommand : d.command = command
  · subst hcommand
    obtain ⟨d', hd'⟩ := Option.isSome_iff_exists.1 hknown
    simp [Progress.skip, hd']
  · simp [Progress.skip, hcommand]

/-- The first definition of a command is kept. -/
theorem insert {d : Definition} (hr : Definition.ofValue r = .ok d)
    (hnew : ¬p.definitions.contains d.command = true) :
    p.TakesUp [r] { p with definitions := p.definitions.insert d.command d } := by
  refine of_ofValue hr (fun command => ?_) fun n hn => hn
  rw [OrderedMap.get?_insert]
  by_cases hcommand : d.command = command
  · subst hcommand
    have hnone : p.definitions.get? d.command = none := by
      simpa [OrderedMap.contains] using hnew
    simp [hnone]
  · simp [hcommand]

end TakesUp

/-! ### Records -/

/-- A record that does not end the load is taken up. -/
theorem exists_addRecord (h : ¬Definition.EndsLoad r) (p : Progress) :
    ∃ p', p.addRecord r = .ok p' ∧ p.TakesUp [r] p' := by
  cases hr : Definition.ofValue r with
  | error e =>
    have hcontained := Definition.contained_ofValue h e hr
    exact ⟨_, by simp [addRecord, hr, hcontained], .skip_defective hr⟩
  | ok d =>
    by_cases hknown : p.definitions.contains d.command = true
    · exact ⟨_, by simp [addRecord, hr, hknown], .skip_repeated hr hknown⟩
    · exact ⟨_, by simp [addRecord, hr, hknown], .insert hr hknown⟩

/-- A record that ends the load ends it. -/
theorem addRecord_of_endsLoad (h : Definition.EndsLoad r) (p : Progress) :
    p.addRecord r = .error .infiniteNumber := by
  simp [addRecord, Definition.ofValue_of_endsLoad h, Defect.isContained]

theorem exists_addRecords (h : ∀ r ∈ records, ¬Definition.EndsLoad r) (p : Progress) :
    ∃ p', records.foldlM addRecord p = .ok p' ∧ p.TakesUp records p' := by
  induction records generalizing p with
  | nil => exact ⟨p, rfl, .refl p⟩
  | cons r records ih =>
    obtain ⟨hr, hrest⟩ := List.forall_mem_cons.1 h
    obtain ⟨p', hp', htakes⟩ := exists_addRecord hr p
    obtain ⟨p'', hp'', htakes'⟩ := ih hrest p'
    refine ⟨p'', ?_, htakes.trans htakes'⟩
    rw [List.foldlM_cons, hp']
    exact hp''

theorem addRecords_of_endsLoad (hr : r ∈ records) (h : Definition.EndsLoad r) (p : Progress) :
    records.foldlM addRecord p = .error .infiniteNumber := by
  induction records generalizing p with
  | nil => simp at hr
  | cons r' records ih =>
    -- The first record ends the load, or is taken up, and then one after it ends the load.
    rw [List.foldlM_cons]
    by_cases hends : Definition.EndsLoad r'
    · rw [addRecord_of_endsLoad hends]
      rfl
    · obtain ⟨p', hp', -⟩ := exists_addRecord hends p
      rw [hp']
      rcases List.mem_cons.1 hr with rfl | hr
      · exact absurd h hends
      · exact ih hr p'

/-! ### Sources -/

variable {d : Delivery} {ds : List Delivery}

/-- A source is passed over, or all its records are taken up. -/
theorem exists_addDelivery (h : ∀ r ∈ deliveredRecords [d], ¬Definition.EndsLoad r)
    (p : Progress) (index : Nat) :
    ∃ p', p.addDelivery index d = .ok p' ∧ p.TakesUp (deliveredRecords [d]) p' ∧
      ∀ fault, d = .error fault → Notice.skippedSource index fault ∈ p'.reports := by
  cases d with
  | error fault =>
    refine ⟨_, rfl, .skip _, ?_⟩
    rintro _ ⟨⟩
    exact List.mem_cons_self
  | ok v =>
    rw [deliveredRecords_ok] at h ⊢
    obtain ⟨p', hp', htakes⟩ := exists_addRecords h p
    exact ⟨p', hp', htakes, by simp⟩

theorem addDelivery_of_endsLoad (hr : r ∈ deliveredRecords [d]) (h : Definition.EndsLoad r)
    (p : Progress) (index : Nat) : p.addDelivery index d = .error .infiniteNumber := by
  cases d with
  | error fault => simp [deliveredRecords] at hr
  | ok v =>
    rw [deliveredRecords_ok] at hr
    exact addRecords_of_endsLoad hr h p

/-- **A load that no record ends completes**, and reports the sources that failed. -/
theorem exists_addDeliveries (h : ∀ r ∈ deliveredRecords ds, ¬Definition.EndsLoad r)
    (p : Progress) (index : Nat) :
    ∃ p', p.addDeliveries index ds = .ok p' ∧ p.TakesUp (deliveredRecords ds) p' ∧
      ∀ i fault, ds[i]? = some (.error fault) →
        Notice.skippedSource (index + i) fault ∈ p'.reports := by
  induction ds generalizing p index with
  | nil => exact ⟨p, rfl, .refl p, by simp⟩
  | cons d ds ih =>
    obtain ⟨hfirst, hrest⟩ := List.forall_mem_append.1 (deliveredRecords_cons d ds ▸ h)
    obtain ⟨p', hp', htakes, hfault⟩ := exists_addDelivery hfirst p index
    obtain ⟨p'', hp'', htakes', hfaults⟩ := ih hrest p' (index + 1)
    refine ⟨p'', ?_, ?_, fun i fault hi => ?_⟩
    · rw [addDeliveries, hp']
      exact hp''
    · rw [deliveredRecords_cons]
      exact htakes.trans htakes'
    · -- A source that is reported stays so, whatever comes after it.
      cases i with
      | zero => exact htakes'.reports _ (hfault fault (by simpa using hi))
      | succ i =>
        have hlater := hfaults i fault (by simpa using hi)
        rwa [Nat.add_assoc, Nat.add_comm 1] at hlater

/-- **A record that ends a load ends it wherever it stands**: what stands before the first
such record is taken up, and nothing after it matters. -/
theorem addDeliveries_of_endsLoad (hr : r ∈ deliveredRecords ds) (h : Definition.EndsLoad r)
    (p : Progress) (index : Nat) : p.addDeliveries index ds = .error .infiniteNumber := by
  induction ds generalizing p index with
  | nil => simp [deliveredRecords] at hr
  | cons d ds ih =>
    rw [addDeliveries]
    by_cases hfirst : ∃ r' ∈ deliveredRecords [d], Definition.EndsLoad r'
    · obtain ⟨r', hr', hends⟩ := hfirst
      rw [addDelivery_of_endsLoad hr' hends]
      rfl
    · have hgood : ∀ r' ∈ deliveredRecords [d], ¬Definition.EndsLoad r' :=
        fun r' hr' hends => hfirst ⟨r', hr', hends⟩
      obtain ⟨p', hp', -, -⟩ := exists_addDelivery hgood p index
      rw [hp']
      rw [deliveredRecords_cons] at hr
      rcases List.mem_append.1 hr with hr | hr
      · exact absurd h (hgood r hr)
      · exact ih hr p' (index + 1)

end Progress

/-! ### Loads -/

variable {ds : List Delivery}

theorem ofDeliveries_of_endsLoad {r : Value} (hr : r ∈ deliveredRecords ds)
    (h : Definition.EndsLoad r) : ofDeliveries ds = .error .infiniteNumber := by
  rw [ofDeliveries, Progress.addDeliveries_of_endsLoad hr h]
  rfl

/-- What a load that completes has: the first definitions, and reports of what was passed
over. -/
structure Loaded.Holds (loaded : Loaded) (ds : List Delivery) : Prop where
  /-- The catalogue is loaded. -/
  isLoaded : loaded.catalogue.isLoaded = true
  /-- Every command has the definition in its first well-formed record. -/
  definitions : ∀ command,
    loaded.catalogue.get? command = firstDefinition? (deliveredRecords ds) command
  /-- Every defective record is reported as passed over. -/
  defective : ∀ r ∈ deliveredRecords ds, ∀ e, Definition.ofValue r = .error e →
    Notice.skippedRecord e ∈ loaded.reports
  /-- Every source that failed is reported as passed over. -/
  failed : ∀ i fault, ds[i]? = some (.error fault) →
    Notice.skippedSource i fault ∈ loaded.reports

theorem exists_ofDeliveries (h : ∀ r ∈ deliveredRecords ds, ¬Definition.EndsLoad r) :
    ∃ loaded, ofDeliveries ds = .ok loaded ∧ loaded.Holds ds := by
  obtain ⟨p, hp, htakes, hfaults⟩ := Progress.exists_addDeliveries h .start 0
  refine ⟨_, by rw [ofDeliveries, hp]; rfl, rfl, fun command => ?_, fun r hr e he => ?_,
    fun i fault hi => ?_⟩
  · simpa [Progress.start, get?] using htakes.definitions command
  · simp [htakes.defective r hr e he]
  · simpa using hfaults i fault hi

end Catalogue

/-! ### Callers -/

namespace Loading

open Catalogue

theorem run_append (l : Loading) (events more : List LoadEvent) :
    l.run (events ++ more) = (l.run events).run more :=
  List.foldl_append

/-- Sources that deliver while the load runs are marked. -/
theorem run_deliver {l : Loading} {delivered : List Bool} {waiting : List Nat}
    (h : l.phase = .running delivered waiting) (indices : List Nat) :
    l.run (indices.map .deliver) =
      { l with phase := .running (indices.foldl (fun d i => d.set i true) delivered) waiting } := by
  induction indices generalizing l delivered with
  | nil => simp [run, ← h]
  | cons i indices ih =>
    have hstep : l.step (.deliver i) =
        { l with phase := .running (delivered.set i true) waiting } := by
      simp [step, h]
    rw [List.map_cons, run, List.foldl_cons, hstep]
    exact ih rfl

theorem getElem?_foldl_set (indices : List Nat) (delivered : List Bool) (i : Nat) :
    (indices.foldl (fun d i => d.set i true) delivered)[i]? =
      if i ∈ indices then delivered[i]?.map fun _ => true else delivered[i]? := by
  induction indices generalizing delivered with
  | nil => simp
  | cons j indices ih =>
    rw [List.foldl_cons, ih, List.getElem?_set]
    by_cases hij : j = i
    · subst hij
      by_cases hj : j < delivered.length <;> simp [hj]
    · simp [hij, Ne.symm hij]

/-- Once every source has delivered, every mark is set. -/
theorem all_foldl_set {delivered : List Bool} {n : Nat} (h : delivered.length = n) :
    ((List.range n).foldl (fun d i => d.set i true) delivered).all id = true := by
  rw [List.all_eq_true]
  intro b hb
  obtain ⟨i, hi⟩ := List.mem_iff_getElem?.1 hb
  rw [getElem?_foldl_set] at hi
  split at hi
  · obtain ⟨-, -, rfl⟩ := Option.map_eq_some_iff.1 hi
    rfl
  · rename_i hout
    rw [List.mem_range, Nat.not_lt, ← h] at hout
    simp [List.getElem?_eq_none hout] at hi

/-- A load to which every source has delivered ends. -/
theorem step_complete {l : Loading} {delivered : List Bool} {waiting : List Nat}
    (h : l.phase = .running delivered waiting) (hall : delivered.all id = true) :
    l.step .complete =
      { l with
        phase := .ended (ofDeliveries l.sources)
        answers := (waiting.map fun caller => (caller, ofDeliveries l.sources)).reverse ++
          l.answers } := by
  simp only [step, h, hall, if_true]

/-- A load that one caller has asked for and every source has delivered to. -/
def once (ds : List Delivery) : Loading := (ofSources ds).run (together ds.length 1 0)

/-- **A caller who asks for the catalogue gets what the sources delivered**, once they have,
and so do lookups from then on. -/
theorem once_eq (ds : List Delivery) :
    (once ds).answer? 0 = some (ofDeliveries ds) ∧
      (once ds).phase = .ended (ofDeliveries ds) := by
  have hall : ((List.range ds.length).foldl (fun d i => d.set i true)
      (ds.map fun _ => false)).all id = true := all_foldl_set (by simp)
  have hevents : together ds.length 1 0 =
      [.call 0] ++ (List.range ds.length).map .deliver ++ [.complete] := by
    simp [together, List.range_succ]
  have hdelivered := run_deliver (l := (ofSources ds).run [.call 0]) rfl (List.range ds.length)
  have hends : once ds =
      { ofSources ds with
        asked := (ofSources ds).asked.map (· + 1)
        phase := .ended (ofDeliveries ds)
        answers := [(0, ofDeliveries ds)] } := by
    rw [once, hevents, run_append, run_append, hdelivered]
    exact step_complete (l := { (ofSources ds).run [.call 0] with
      phase := .running _ [0] }) rfl hall
  rw [hends]
  exact ⟨rfl, rfl⟩

/-- **One bad record takes down the catalogue exactly if an infinite exit code is the first
thing that is wrong with it.** Whatever the sources deliver, or fail to deliver:

* the caller gets a catalogue if and only if there is no such record, and then lookups see a
  loaded one;
* if there is such a record, wherever it stands, the caller gets the fault, and lookups see
  nothing;
* a catalogue that the caller gets is what lookups see; every command has the definition in
  its first well-formed record there, and the sources that failed and the records that are
  defective are reported as passed over. -/
theorem completes_iff (ds : List Delivery) :
    ((∃ loaded, (once ds).answer? 0 = some (.ok loaded)) ↔
      ∀ r ∈ deliveredRecords ds, ¬Definition.EndsLoad r) ∧
    ((once ds).visible.isLoaded = true ↔ ∀ r ∈ deliveredRecords ds, ¬Definition.EndsLoad r) ∧
    (∀ r ∈ deliveredRecords ds, Definition.EndsLoad r →
      (once ds).answer? 0 = some (.error .infiniteNumber) ∧ (once ds).visible = .unloaded) ∧
    ∀ loaded, (once ds).answer? 0 = some (.ok loaded) →
      (once ds).visible = loaded.catalogue ∧ loaded.Holds ds := by
  obtain ⟨hanswer, hphase⟩ := once_eq ds
  rw [hanswer]
  simp only [visible, hphase]
  -- Of the four parts one half is about loads that a record ends, the other about the rest.
  by_cases hends : ∃ r ∈ deliveredRecords ds, Definition.EndsLoad r
  · obtain ⟨r, hr, hends⟩ := hends
    have hno : ¬∀ r ∈ deliveredRecords ds, ¬Definition.EndsLoad r := fun h => h r hr hends
    have herror := ofDeliveries_of_endsLoad hr hends
    refine ⟨?_, ?_, fun _ _ _ => ?_, ?_⟩
    · simp [herror, hno]
    · simp [herror, hno, unloaded]
    · simp [herror]
    · simp [herror]
  · have hall : ∀ r ∈ deliveredRecords ds, ¬Definition.EndsLoad r :=
      fun r hr h => hends ⟨r, hr, h⟩
    obtain ⟨loaded, hloaded, hholds⟩ := exists_ofDeliveries hall
    refine ⟨?_, ?_, fun r hr h => absurd h (hall r hr), fun l hl => ?_⟩
    · simpa [hloaded] using hall
    · simpa [hloaded, hholds.isLoaded] using hall
    · obtain rfl : loaded = l := by simpa [hloaded] using hl
      exact ⟨by simp [hloaded], hholds⟩

/-- A source with a record in order, and one with a record that ends the load: its exit code
is `1e999`, which is beyond the range of floating point. -/
def infiniteExitCode : List Delivery := [
  .ok (.object [("command", .string "sinfo")]),
  .ok (.object [
    ("command", .string "bad"),
    ("exit_codes", .array [.object [("code", .float (.ofDecimal false 1 999))]])])]

/-- **One bad record takes down the catalogue**: with an infinite exit code in the second
source nothing is loaded, though the record of the first one is in order. -/
theorem infiniteExitCode_ends_load :
    (firstDefinition? (deliveredRecords infiniteExitCode) "sinfo").isSome = true ∧
      (once infiniteExitCode).answer? 0 = some (.error .infiniteNumber) ∧
      (once infiniteExitCode).visible.isLoaded = false ∧
      (once infiniteExitCode).visible.has "sinfo" = false := by
  refine ⟨?_, ?_, ?_, ?_⟩
  · rfl
  · rfl
  · rfl
  · rfl

end Loading

end ClusterTutor
