import ClusterTutor.Catalogue.Sharing
import ClusterTutor.Proofs.Data.Except
import Mathlib.Data.List.Basic

/-!
# Callers and sources in any interleaving

Callers who share one load take turns with the load and with the sources. Nobody is
interrupted between two waits, so a turn is one step:

* a caller **asks**: the answer is given at once if there is one, and otherwise the caller
  makes the load a task, unless somebody else has, and waits for it;
* the task **begins**: it asks every source, and waits for all of them;
* a source **delivers**;
* the task **finishes**, once everything is delivered: it takes up the records, and then shows
  the whole catalogue or fails;
* a caller who waits **resumes**, once the task has ended, and takes its outcome.

`ClusterTutor.SharedLoad` is a load in these steps. Its states are analysed once
(`ClusterTutor.SharedLoad.Sound`), and every step leads from one of them to another; what
holds in any interleaving is read off (`ClusterTutor.SharedLoad.shared_by_all`).

`ClusterTutor.Loading` takes several of these steps at once: there the task begins as it is
made, and everybody who waits resumes as it finishes. Nothing is lost or added by that. Every
interleaving is seen as one of its runs (`ClusterTutor.SharedLoad.toLoading_run`), and every one
of its runs is an interleaving seen like this (`ClusterTutor.SharedLoad.exists_run_of_events`).
-/

namespace ClusterTutor

/-- What a caller waits for, or has got. -/
inductive CallState where
  /-- The caller waits for the end of the load. -/
  | waiting
  /-- The caller has got the definitions, or the error that ended the load. -/
  | returned (outcome : Except Defect Catalogue)

/-- The task that loads a catalogue. -/
inductive LoadTask where
  /-- Nobody has asked yet. -/
  | absent
  /-- The task has been made, and has not had its first turn. -/
  | made
  /-- The sources were asked, and some have delivered. -/
  | gathering (slots : List (Option Delivery))
  /-- The task has ended. -/
  | ended (outcome : Except Defect Catalogue)

/-- A turn of a caller, of the task or of a source. -/
inductive LoadStep where
  /-- A caller asks for the catalogue. -/
  | ask (caller : Nat)
  /-- The task has its first turn. -/
  | begin
  /-- The source with an index delivers. -/
  | deliver (index : Nat)
  /-- The task takes up what was delivered, if everything was. -/
  | finish
  /-- The caller who asked with an index goes on, if the task has ended. -/
  | resume (index : Nat)
deriving DecidableEq, Repr

/-- How many turns a task and the sources have left. -/
def LoadTask.turnsLeft (sources : List Delivery) : LoadTask → Nat
  | .absent => 0
  | .made => sources.length + 2
  | .gathering slots => slots.countP Option.isNone + 1
  | .ended _ => 0

/-- Who asks in a step. -/
def LoadStep.caller? : LoadStep → Option Nat
  | .ask caller => some caller
  | _ => none

/-- A load with everybody who takes part in it. -/
structure SharedLoad where
  /-- How often each source was asked. -/
  asked : List Nat
  /-- The task. -/
  task : LoadTask
  /-- The catalogue that lookups see. -/
  published : Catalogue
  /-- The callers in the order in which they asked. -/
  calls : List (Nat × CallState)

namespace SharedLoad

/-- A load of some sources that nobody has asked for. -/
def start (sources : List Delivery) : SharedLoad where
  asked := sources.map fun _ => 0
  task := .absent
  published := .unloaded
  calls := []

/-- What a task comes to with what was delivered. -/
def outcomeOf (ds : List Delivery) : Except Defect Catalogue :=
  (Catalogue.ofDeliveries ds).map Catalogue.Loaded.catalogue

/-- What lookups see after a task has ended. -/
def publish (before : Catalogue) : Except Defect Catalogue → Catalogue
  | .ok c => c
  | .error _ => before

/-- A caller who goes on with an outcome, if the caller has waited for one. -/
def resumed (outcome : Except Defect Catalogue) (c : Nat × CallState) : Nat × CallState :=
  match c.2 with
  | .waiting => (c.1, .returned outcome)
  | .returned _ => c

/-- A load of some sources after a step. Out of turn nothing happens. -/
def step (sources : List Delivery) (l : SharedLoad) : LoadStep → SharedLoad
  | .ask caller =>
    if l.published.isLoaded then
      { l with calls := l.calls ++ [(caller, .returned (.ok l.published))] }
    else match l.task with
      | .absent => { l with task := .made, calls := l.calls ++ [(caller, .waiting)] }
      | .ended outcome => { l with calls := l.calls ++ [(caller, .returned outcome)] }
      | _ => { l with calls := l.calls ++ [(caller, .waiting)] }
  | .begin =>
    match l.task with
    | .made =>
      { l with asked := l.asked.map (· + 1), task := .gathering (sources.map fun _ => none) }
    | _ => l
  | .deliver index =>
    match l.task with
    | .gathering slots => { l with task := .gathering (slots.set index sources[index]?) }
    | _ => l
  | .finish =>
    match l.task with
    | .gathering slots =>
      if slots.all Option.isSome then
        let outcome := outcomeOf (slots.filterMap id)
        { l with task := .ended outcome, published := publish l.published outcome }
      else l
    | _ => l
  | .resume index =>
    match l.task with
    | .ended outcome => { l with calls := l.calls.modify index (resumed outcome) }
    | _ => l

/-- A load of some sources after several steps. -/
def run (sources : List Delivery) (l : SharedLoad) (steps : List LoadStep) : SharedLoad :=
  steps.foldl (step sources) l

/-! ### States that occur -/

/-- Slots in which there is nothing but what the sources deliver. -/
structure Gathered (sources : List Delivery) (slots : List (Option Delivery)) : Prop where
  /-- There is a slot for each source. -/
  length_eq : slots.length = sources.length
  /-- What was delivered came from the source of the slot. -/
  delivered : ∀ (i : Nat) (d : Delivery), slots[i]? = some (some d) → sources[i]? = some d

/-- **The states that occur** in a load of some sources, by the state of the task. -/
inductive Sound (sources : List Delivery) : SharedLoad → Prop
  /-- Nobody has asked. -/
  | start : Sound sources (start sources)
  /-- No source was asked, and all callers wait. -/
  | made {calls : List (Nat × CallState)} : (∀ c ∈ calls, c.2 = .waiting) →
    Sound sources ⟨sources.map fun _ => 0, .made, .unloaded, calls⟩
  /-- Every source was asked once, and all callers wait. -/
  | gathering {slots : List (Option Delivery)} {calls : List (Nat × CallState)} :
    Gathered sources slots → (∀ c ∈ calls, c.2 = .waiting) →
    Sound sources ⟨sources.map fun _ => 1, .gathering slots, .unloaded, calls⟩
  /-- Every source was asked once, and nobody has got anything but the outcome of what they
  deliver, which is what lookups see. -/
  | ended {calls : List (Nat × CallState)} :
    (∀ c ∈ calls, c.2 = .waiting ∨ c.2 = .returned (outcomeOf sources)) →
    Sound sources ⟨sources.map fun _ => 1, .ended (outcomeOf sources),
      publish .unloaded (outcomeOf sources), calls⟩

variable {sources : List Delivery} {l : SharedLoad} {slots : List (Option Delivery)}
  {calls : List (Nat × CallState)}

namespace Gathered

theorem initial (sources : List Delivery) : Gathered sources (sources.map fun _ => none) where
  length_eq := List.length_map _
  delivered i d h := by
    obtain ⟨source, -, hnone⟩ := List.mem_map.1 (List.mem_of_getElem? h)
    simp at hnone

theorem set (h : Gathered sources slots) (index : Nat) :
    Gathered sources (slots.set index sources[index]?) where
  length_eq := by rw [List.length_set, h.length_eq]
  delivered i d hd := by
    by_cases hi : index = i
    · subst hi
      rw [List.getElem?_set_self'] at hd
      cases hslot : slots[index]? with
      | none => simp [hslot] at hd
      | some slot => simpa [hslot] using hd
    · rw [List.getElem?_set_ne hi] at hd
      exact h.delivered i d hd

/-- What a source has delivered it does not deliver again. -/
theorem set_eq_self (h : Gathered sources slots) {index : Nat} {d : Delivery}
    (hd : slots[index]? = some (some d)) : slots.set index sources[index]? = slots := by
  obtain ⟨hlt, hslot⟩ := List.getElem?_eq_some_iff.1 hd
  rw [h.delivered index d hd, ← hslot]
  exact List.set_getElem_self hlt

/-- **What was delivered when everything was.** -/
theorem filterMap_eq (h : Gathered sources slots) (hall : slots.all Option.isSome = true) :
    slots.filterMap id = sources := by
  have hslots : slots = sources.map some := by
    refine List.ext_getElem? fun i => ?_
    cases hslot : slots[i]? with
    | none =>
      have hlength := List.getElem?_eq_none_iff.1 hslot
      rw [h.length_eq] at hlength
      simp [hlength]
    | some slot =>
      have hsome : slot.isSome = true := List.all_eq_true.1 hall slot (List.mem_of_getElem? hslot)
      obtain ⟨d, rfl⟩ := Option.isSome_iff_exists.1 hsome
      rw [List.getElem?_map, h.delivered i d hslot]
      rfl
  rw [hslots, List.filterMap_map]
  exact List.filterMap_some

end Gathered

/-- Only a catalogue that was loaded is shown as loaded. -/
theorem isLoaded_of_outcomeOf_eq_ok {c : Catalogue} (h : outcomeOf sources = .ok c) :
    c.isLoaded = true := by
  cases hload : Catalogue.ofDeliveries sources with
  | error e => simp [outcomeOf, hload, Except.map] at h
  | ok loaded =>
    obtain rfl : loaded.catalogue = c := by simpa [outcomeOf, hload, Except.map] using h
    obtain ⟨p, -, hloaded⟩ := bind_eq_ok.1 hload
    obtain rfl := Except.ok.inj hloaded
    rfl

/-- A caller who has waited, or has got the outcome, has got it after going on. -/
theorem resumed_eq {outcome : Except Defect Catalogue} {c : Nat × CallState}
    (h : c.2 = .waiting ∨ c.2 = .returned outcome) :
    resumed outcome c = (c.1, .returned outcome) := by
  obtain ⟨caller, state⟩ := c
  rcases h with h | h <;> (dsimp only at h; subst h; rfl)

theorem published_ask (sources : List Delivery) (l : SharedLoad) (caller : Nat) :
    (l.step sources (.ask caller)).published = l.published := by
  by_cases hloaded : l.published.isLoaded = true
  · simp only [step, if_pos hloaded]
  · simp only [step, if_neg hloaded]
    cases l.task <;> rfl

/-- **After the end the answer is the outcome**, whether the caller finds it published or in the
task. -/
theorem step_ask_ended (sources : List Delivery) (asked : List Nat)
    (calls : List (Nat × CallState)) (caller : Nat) :
    step sources
        ⟨asked, .ended (outcomeOf sources), publish .unloaded (outcomeOf sources), calls⟩
        (.ask caller) =
      ⟨asked, .ended (outcomeOf sources), publish .unloaded (outcomeOf sources),
        calls ++ [(caller, .returned (outcomeOf sources))]⟩ := by
  cases houtcome : outcomeOf sources with
  | error e => rfl
  | ok c => simp [step, publish, isLoaded_of_outcomeOf_eq_ok houtcome]

namespace Sound

theorem ask (h : Sound sources l) (caller : Nat) :
    Sound sources (step sources l (.ask caller)) := by
  cases h with
  | start => exact .made (by simp [SharedLoad.start])
  | made hcalls => exact .made (by simpa [or_imp, forall_and] using hcalls)
  | gathering hslots hcalls => exact .gathering hslots (by simpa [or_imp, forall_and] using hcalls)
  | @ended calls hcalls =>
    rw [step_ask_ended]
    refine .ended fun c hc => ?_
    rcases List.mem_append.1 hc with hc | hc
    · exact hcalls c hc
    · rw [List.mem_singleton.1 hc]
      exact .inr rfl

theorem begin (h : Sound sources l) : Sound sources (step sources l .begin) := by
  cases h with
  | start => exact .start
  | @made calls hcalls =>
    have hstep : step sources ⟨sources.map fun _ => 0, .made, .unloaded, calls⟩ .begin =
        ⟨sources.map fun _ => 1, .gathering (sources.map fun _ => none), .unloaded, calls⟩ := by
      simp [step]
    rw [hstep]
    exact .gathering (.initial sources) hcalls
  | gathering hslots hcalls => exact .gathering hslots hcalls
  | ended hcalls => exact .ended hcalls

theorem deliver (h : Sound sources l) (index : Nat) :
    Sound sources (step sources l (.deliver index)) := by
  cases h with
  | start => exact .start
  | made hcalls => exact .made hcalls
  | gathering hslots hcalls => exact .gathering (hslots.set index) hcalls
  | ended hcalls => exact .ended hcalls

theorem finish (h : Sound sources l) : Sound sources (step sources l .finish) := by
  cases h with
  | start => exact .start
  | made hcalls => exact .made hcalls
  | @gathering slots calls hslots hcalls =>
    by_cases hall : slots.all Option.isSome = true
    · have hstep : step sources
            ⟨sources.map fun _ => 1, .gathering slots, .unloaded, calls⟩ .finish =
          ⟨sources.map fun _ => 1, .ended (outcomeOf sources),
            publish .unloaded (outcomeOf sources), calls⟩ := by
        simp only [step, if_pos hall, hslots.filterMap_eq hall]
      rw [hstep]
      exact .ended fun c hc => .inl (hcalls c hc)
    · have hstep : step sources
            ⟨sources.map fun _ => 1, .gathering slots, .unloaded, calls⟩ .finish =
          ⟨sources.map fun _ => 1, .gathering slots, .unloaded, calls⟩ := by
        simp only [step, if_neg hall]
      rw [hstep]
      exact .gathering hslots hcalls
  | ended hcalls => exact .ended hcalls

theorem resume (h : Sound sources l) (index : Nat) :
    Sound sources (step sources l (.resume index)) := by
  cases h with
  | start => exact .start
  | made hcalls => exact .made hcalls
  | gathering hslots hcalls => exact .gathering hslots hcalls
  | @ended calls hcalls =>
    refine .ended fun c hc => ?_
    obtain ⟨i, hi⟩ := List.getElem?_of_mem hc
    obtain ⟨c', hc', rfl⟩ : ∃ c', calls[i]? = some c' ∧
        (if index = i then resumed (outcomeOf sources) c' else c') = c := by
      simpa [List.getElem?_modify] using hi
    have hbefore := hcalls c' (List.mem_of_getElem? hc')
    by_cases hindex : index = i
    · rw [if_pos hindex, resumed_eq hbefore]
      exact .inr rfl
    · rw [if_neg hindex]
      exact hbefore

/-- **A step leads from a state that occurs to another.** -/
theorem step (h : Sound sources l) (e : LoadStep) :
    Sound sources (SharedLoad.step sources l e) := by
  cases e with
  | ask caller => exact h.ask caller
  | begin => exact h.begin
  | deliver index => exact h.deliver index
  | finish => exact h.finish
  | resume index => exact h.resume index

/-- **In every interleaving only such states occur.** -/
theorem run (h : Sound sources l) (steps : List LoadStep) :
    Sound sources (l.run sources steps) := by
  induction steps generalizing l with
  | nil => exact h
  | cons e steps ih => exact ih (h.step e)

/-- Every source was asked once, or none was. -/
theorem asked_eq (h : Sound sources l) :
    l.asked = (sources.map fun _ => 0) ∨ l.asked = sources.map fun _ => 1 := by
  cases h with
  | start => exact .inl rfl
  | made hcalls => exact .inl rfl
  | gathering hslots hcalls => exact .inr rfl
  | ended hcalls => exact .inr rfl

/-- **A caller gets the outcome** of what the sources deliver, which all were asked once. -/
theorem of_returned (h : Sound sources l) {caller : Nat} {outcome : Except Defect Catalogue}
    (hmem : (caller, CallState.returned outcome) ∈ l.calls) :
    outcome = outcomeOf sources ∧ l.asked = sources.map fun _ => 1 := by
  cases h with
  | start => simp [SharedLoad.start] at hmem
  | made hcalls => simpa using hcalls _ hmem
  | gathering hslots hcalls => simpa using hcalls _ hmem
  | ended hcalls =>
    have hstate := hcalls _ hmem
    exact ⟨by simpa using hstate, rfl⟩

/-- **Lookups see nothing or everything.** -/
theorem published_eq (h : Sound sources l) :
    l.published = .unloaded ∨
      (l.published.isLoaded = true ∧ outcomeOf sources = .ok l.published) := by
  cases h with
  | start => exact .inl rfl
  | made hcalls => exact .inl rfl
  | gathering hslots hcalls => exact .inl rfl
  | ended hcalls =>
    cases houtcome : outcomeOf sources with
    | error e => exact .inl rfl
    | ok c => exact .inr ⟨isLoaded_of_outcomeOf_eq_ok houtcome, rfl⟩

/-- What is shown as loaded is shown after a step. -/
theorem isLoaded_step (h : Sound sources l) (hloaded : l.published.isLoaded = true) (e : LoadStep) :
    (l.step sources e).published.isLoaded = true := by
  cases h with
  | start => simp [SharedLoad.start, Catalogue.unloaded] at hloaded
  | made hcalls => simp [Catalogue.unloaded] at hloaded
  | gathering hslots hcalls => simp [Catalogue.unloaded] at hloaded
  | ended hcalls =>
    -- The task has ended, and nothing is published any more.
    cases e with
    | ask caller =>
      rw [published_ask]
      exact hloaded
    | begin => exact hloaded
    | deliver index => exact hloaded
    | finish => exact hloaded
    | resume index => exact hloaded

theorem isLoaded_run (h : Sound sources l) (hloaded : l.published.isLoaded = true)
    (more : List LoadStep) : (l.run sources more).published.isLoaded = true := by
  induction more generalizing l with
  | nil => exact hloaded
  | cons e more ih => exact ih (h.step e) (h.isLoaded_step hloaded e)

/-- **A loaded catalogue never changes.** -/
theorem published_run (h : Sound sources l) (hloaded : l.published.isLoaded = true)
    (more : List LoadStep) : (l.run sources more).published = l.published := by
  have hafter := h.isLoaded_run hloaded more
  rcases h.published_eq with hnone | ⟨-, hbefore⟩
  · simp [hnone, Catalogue.unloaded] at hloaded
  · rcases (h.run more).published_eq with hnone | ⟨-, houtcome⟩
    · simp [hnone, Catalogue.unloaded] at hafter
    · rw [hbefore] at houtcome
      exact (Except.ok.inj houtcome).symm

end Sound

/-! ### The end of a load -/

/-- Whether a caller waits. -/
def waits : Nat × CallState → Bool
  | (_, .waiting) => true
  | (_, .returned _) => false

/-- How many turns are left, if nobody else asks. -/
def turnsLeft (sources : List Delivery) (l : SharedLoad) : Nat :=
  l.task.turnsLeft sources + l.calls.countP waits

/-- **A load that is over**: until somebody asks there is nothing left to do. -/
def Over (sources : List Delivery) (l : SharedLoad) : Prop :=
  ∀ e, (∀ caller, e ≠ .ask caller) → l.step sources e = l

theorem countP_waits_modify {outcome : Except Defect Catalogue} {index : Nat}
    (hchange : calls.modify index (resumed outcome) ≠ calls) :
    (calls.modify index (resumed outcome)).countP waits < calls.countP waits := by
  induction calls generalizing index with
  | nil => simp at hchange
  | cons c calls ih =>
    cases index with
    | zero =>
      obtain ⟨caller, state⟩ := c
      cases state with
      | waiting =>
        have hmodify : ((caller, CallState.waiting) :: calls).modify 0 (resumed outcome) =
            (caller, .returned outcome) :: calls := rfl
        rw [hmodify]
        simp [List.countP_cons, waits]
      | returned outcome' => simp [resumed] at hchange
    | succ index =>
      have hrest : calls.modify index (resumed outcome) ≠ calls := by
        simpa using hchange
      have hless := ih hrest
      simp only [List.modify_succ_cons, List.countP_cons]
      omega

/-- A source that delivers for the first time fills a slot. -/
theorem Gathered.countP_isNone_set (h : Gathered sources slots) {index : Nat}
    (hchange : slots.set index sources[index]? ≠ slots) :
    (slots.set index sources[index]?).countP Option.isNone < slots.countP Option.isNone := by
  have hindex : index < slots.length := by
    by_contra hge
    exact hchange (List.set_eq_of_length_le (Nat.le_of_not_lt hge))
  have hslot : slots[index] = none := by
    cases hslot : slots[index] with
    | none => rfl
    | some d => exact absurd (h.set_eq_self (List.getElem?_eq_some_iff.2 ⟨hindex, hslot⟩)) hchange
  have hpos : 0 < slots.countP Option.isNone :=
    List.countP_pos_iff.2 ⟨none, hslot ▸ List.getElem_mem hindex, rfl⟩
  have hfilled : sources[index]?.isNone = false := by
    rw [List.getElem?_eq_getElem (h.length_eq ▸ hindex)]
    rfl
  rw [List.countP_set hindex, hslot, hfilled]
  simp only [Option.isNone_none, if_true, Bool.false_eq_true, if_false]
  omega

/-- **Every turn but a caller's first makes fewer turns left.** -/
theorem Sound.turnsLeft_step (h : Sound sources l) {e : LoadStep}
    (hask : ∀ caller, e ≠ .ask caller) (hchange : l.step sources e ≠ l) :
    (l.step sources e).turnsLeft sources < l.turnsLeft sources := by
  cases e with
  | ask caller => exact absurd rfl (hask caller)
  | begin =>
    cases h with
    | start => exact absurd rfl hchange
    | made hcalls => simp [SharedLoad.step, turnsLeft, LoadTask.turnsLeft, List.countP_replicate]
    | gathering hslots hcalls => exact absurd rfl hchange
    | ended hcalls => exact absurd rfl hchange
  | deliver index =>
    cases h with
    | start => exact absurd rfl hchange
    | made hcalls => exact absurd rfl hchange
    | @gathering slots calls hslots hcalls =>
      have hnew : slots.set index sources[index]? ≠ slots := by
        intro hsame
        refine hchange ?_
        simp only [SharedLoad.step, hsame]
      have hless := hslots.countP_isNone_set hnew
      simp only [SharedLoad.step, turnsLeft, LoadTask.turnsLeft]
      omega
    | ended hcalls => exact absurd rfl hchange
  | finish =>
    cases h with
    | start => exact absurd rfl hchange
    | made hcalls => exact absurd rfl hchange
    | @gathering slots calls hslots hcalls =>
      by_cases hall : slots.all Option.isSome = true
      · simp only [SharedLoad.step, if_pos hall, turnsLeft, LoadTask.turnsLeft]
        omega
      · refine absurd ?_ hchange
        simp only [SharedLoad.step, if_neg hall]
    | ended hcalls => exact absurd rfl hchange
  | resume index =>
    cases h with
    | start => exact absurd rfl hchange
    | made hcalls => exact absurd rfl hchange
    | gathering hslots hcalls => exact absurd rfl hchange
    | @ended calls hcalls =>
      have hnew : calls.modify index (resumed (outcomeOf sources)) ≠ calls := by
        intro hsame
        refine hchange ?_
        simp only [SharedLoad.step, hsame]
      have hless := countP_waits_modify hnew
      simp only [SharedLoad.step, turnsLeft, LoadTask.turnsLeft]
      omega

/-- **When a load is over everybody has got the outcome.** -/
theorem Sound.returned_of_over (h : Sound sources l) (hover : Over sources l) :
    ∀ c ∈ l.calls, c.2 = .returned (outcomeOf sources) := by
  cases h with
  | start => simp [SharedLoad.start]
  | made hcalls =>
    -- The task could begin.
    have hbegin := congrArg task (hover .begin fun _ h => LoadStep.noConfusion h)
    simp [SharedLoad.step] at hbegin
  | @gathering slots calls hslots hcalls =>
    by_cases hall : slots.all Option.isSome = true
    · have hfinish := congrArg task (hover .finish fun _ h => LoadStep.noConfusion h)
      simp only [SharedLoad.step, if_pos hall] at hfinish
      exact LoadTask.noConfusion hfinish
    · -- A source has not delivered.
      obtain ⟨slot, hslot, hnone⟩ : ∃ slot ∈ slots, slot.isSome = false := by
        simpa using hall
      obtain ⟨index, hindex⟩ := List.getElem?_of_mem hslot
      have hdeliver := congrArg task (hover (.deliver index) fun _ h => LoadStep.noConfusion h)
      have hsame : slots.set index sources[index]? = slots := LoadTask.gathering.inj hdeliver
      have hlt : index < slots.length := (List.getElem?_eq_some_iff.1 hindex).1
      have hsource : sources[index]? = slot := by
        rw [← hsame, List.getElem?_set_self hlt] at hindex
        exact Option.some.inj hindex
      rw [← hsource, List.getElem?_eq_getElem (hslots.length_eq ▸ hlt)] at hnone
      exact absurd hnone (by simp)
  | @ended calls hcalls =>
    intro c hc
    -- The caller has no reason to go on.
    obtain ⟨index, hindex⟩ := List.getElem?_of_mem hc
    have hresume := congrArg SharedLoad.calls
      (hover (.resume index) fun _ h => LoadStep.noConfusion h)
    have hsame : calls.modify index (resumed (outcomeOf sources)) = calls := hresume
    have hc' : resumed (outcomeOf sources) c = c := by
      have hget := congrArg (fun calls => calls[index]?) hsame
      simpa [List.getElem?_modify, hindex] using hget
    rw [resumed_eq (hcalls c hc)] at hc'
    rw [← hc']

/-! ### Several steps at once -/

/-- What a load of some sources is seen as, when the task begins as it is made and everybody
who waits resumes as it ends. -/
def toLoading (sources : List Delivery) (l : SharedLoad) : Loading :=
  match l.task with
  | .absent => .ofSources sources
  | .made =>
    ⟨sources, sources.map fun _ => 1,
      .running (sources.map fun _ => false) (l.calls.map Prod.fst), []⟩
  | .gathering slots =>
    ⟨sources, sources.map fun _ => 1,
      .running (slots.map Option.isSome) (l.calls.map Prod.fst), []⟩
  | .ended _ =>
    ⟨sources, sources.map fun _ => 1, .ended (Catalogue.ofDeliveries sources),
      (l.calls.map fun c => (c.1, Catalogue.ofDeliveries sources)).reverse⟩

/-- What a step is seen as. -/
def seenAs (l : SharedLoad) : LoadStep → List LoadEvent
  | .ask caller => [.call caller]
  | .begin => []
  | .deliver index =>
    match l.task with
    | .gathering _ => [.deliver index]
    | _ => []
  | .finish =>
    match l.task with
    | .gathering _ => [.complete]
    | _ => []
  | .resume _ => []

/-- What several steps are seen as. -/
def allSeenAs (sources : List Delivery) (l : SharedLoad) : List LoadStep → List LoadEvent
  | [] => []
  | e :: steps => l.seenAs e ++ (l.step sources e).allSeenAs sources steps

/-- Which sources have delivered, after one more has. -/
theorem Gathered.map_isSome_set (h : Gathered sources slots) (index : Nat) :
    (slots.set index sources[index]?).map Option.isSome =
      (slots.map Option.isSome).set index true := by
  by_cases hindex : index < sources.length
  · rw [List.map_set, List.getElem?_eq_getElem hindex]
    rfl
  · have hlength : slots.length ≤ index := h.length_eq ▸ Nat.le_of_not_lt hindex
    rw [List.set_eq_of_length_le hlength, List.set_eq_of_length_le]
    rw [List.length_map]
    exact hlength

/-- Going on makes no difference to who asked. -/
theorem map_fst_modify (outcome : Except Defect Catalogue) (calls : List (Nat × CallState))
    (index : Nat) :
    (calls.modify index (resumed outcome)).map Prod.fst = calls.map Prod.fst := by
  have hfst : ∀ c, (resumed outcome c).1 = c.1 := by
    rintro ⟨caller, state⟩
    cases state <;> rfl
  induction calls generalizing index with
  | nil => simp
  | cons c calls ih =>
    cases index with
    | zero => simp [hfst]
    | succ index => simp [ih]

/-- **A step is seen as a step**, or as none. -/
theorem Sound.toLoading_step (h : Sound sources l) (e : LoadStep) :
    (l.step sources e).toLoading sources = (l.toLoading sources).run (l.seenAs e) := by
  cases e with
  | ask caller =>
    cases h with
    | start =>
      simp [SharedLoad.step, SharedLoad.start, toLoading, seenAs, Loading.run, Loading.step,
        Loading.ofSources, Catalogue.unloaded]
    | made hcalls =>
      simp [SharedLoad.step, toLoading, seenAs, Loading.run, Loading.step, Catalogue.unloaded]
    | gathering hslots hcalls =>
      simp [SharedLoad.step, toLoading, seenAs, Loading.run, Loading.step, Catalogue.unloaded]
    | ended hcalls =>
      rw [step_ask_ended]
      simp [toLoading, seenAs, Loading.run, Loading.step]
  | begin =>
    cases h with
    | start => rfl
    | made hcalls => simp [SharedLoad.step, toLoading, seenAs, Loading.run]
    | gathering hslots hcalls => rfl
    | ended hcalls => rfl
  | deliver index =>
    cases h with
    | start => rfl
    | made hcalls => rfl
    | gathering hslots hcalls =>
      simp only [SharedLoad.step, toLoading, seenAs, hslots.map_isSome_set]
      rfl
    | ended hcalls => rfl
  | finish =>
    cases h with
    | start => rfl
    | made hcalls => rfl
    | @gathering slots calls hslots hcalls =>
      have hdelivered : (slots.map Option.isSome).all id = slots.all Option.isSome := by
        rw [List.all_map]
        rfl
      by_cases hall : slots.all Option.isSome = true
      · simp [SharedLoad.step, toLoading, seenAs, Loading.run, Loading.step, hdelivered, hall,
          Function.comp_def]
      · simp [SharedLoad.step, toLoading, seenAs, Loading.run, Loading.step, hdelivered, hall]
    | ended hcalls => rfl
  | resume index =>
    cases h with
    | start => rfl
    | made hcalls => rfl
    | gathering hslots hcalls => rfl
    | @ended calls hcalls =>
      have hmap : (calls.modify index (resumed (outcomeOf sources))).map
            (fun c => (c.1, Catalogue.ofDeliveries sources)) =
          calls.map fun c => (c.1, Catalogue.ofDeliveries sources) := by
        have hfst := map_fst_modify (outcomeOf sources) calls index
        have hpair :=
          congrArg (List.map fun caller => (caller, Catalogue.ofDeliveries sources)) hfst
        simpa only [List.map_map, Function.comp_def] using hpair
      simp only [SharedLoad.step, toLoading, seenAs, hmap]
      rfl

/-- **Every interleaving is seen as a run.** -/
theorem Sound.toLoading_run (h : Sound sources l) (steps : List LoadStep) :
    (l.run sources steps).toLoading sources =
      (l.toLoading sources).run (l.allSeenAs sources steps) := by
  induction steps generalizing l with
  | nil => rfl
  | cons e steps ih =>
    have hrun : l.run sources (e :: steps) = (l.step sources e).run sources steps := rfl
    rw [hrun, ih (h.step e), h.toLoading_step e, allSeenAs, Loading.run, Loading.run, Loading.run,
      List.foldl_append]

/-- Steps that are seen as an event: a task begins as it is made. -/
def stepsOf : LoadEvent → List LoadStep
  | .call caller => [.ask caller, .begin]
  | .deliver index => [.deliver index]
  | .complete => [.finish]

/-- Whatever happened, a task that has had its turn has begun. -/
theorem task_begin_ne_made (sources : List Delivery) (l : SharedLoad) :
    (l.step sources .begin).task ≠ .made := by
  cases htask : l.task <;> simp [step, htask]

theorem task_run_stepsOf_ne_made (hmade : l.task ≠ .made) (event : LoadEvent) :
    (l.run sources (stepsOf event)).task ≠ .made := by
  cases event with
  | call caller => exact task_begin_ne_made sources (l.step sources (.ask caller))
  | deliver index =>
    have hrun : l.run sources (stepsOf (.deliver index)) = l.step sources (.deliver index) := rfl
    rw [hrun]
    cases htask : l.task with
    | made => exact absurd htask hmade
    | absent | gathering _ | ended _ => simp [step, htask]
  | complete =>
    have hrun : l.run sources (stepsOf .complete) = l.step sources .finish := rfl
    rw [hrun]
    cases htask : l.task with
    | made => exact absurd htask hmade
    | absent | ended _ => simp [step, htask]
    | gathering slots =>
      by_cases hall : slots.all Option.isSome = true
      · simp only [step, htask, if_pos hall]
        exact LoadTask.noConfusion
      · simp only [step, htask, if_neg hall]
        exact LoadTask.noConfusion

/-- **An event is what its steps are seen as**, unless a task was made and has not begun. -/
theorem Sound.toLoading_run_stepsOf (h : Sound sources l) (hmade : l.task ≠ .made)
    (event : LoadEvent) :
    (l.run sources (stepsOf event)).toLoading sources = (l.toLoading sources).step event := by
  rw [h.toLoading_run]
  cases h with
  | start => cases event <;> rfl
  | made hcalls => exact absurd rfl hmade
  | gathering hslots hcalls => cases event <;> rfl
  | ended hcalls => cases event <;> rfl

theorem Sound.toLoading_run_flatMap (h : Sound sources l) (hmade : l.task ≠ .made)
    (events : List LoadEvent) :
    (l.run sources (events.flatMap stepsOf)).toLoading sources =
      (l.toLoading sources).run events := by
  induction events generalizing l with
  | nil => rfl
  | cons event events ih =>
    have hrun : l.run sources ((event :: events).flatMap stepsOf) =
        (l.run sources (stepsOf event)).run sources (events.flatMap stepsOf) := by
      rw [List.flatMap_cons, SharedLoad.run, List.foldl_append]
      rfl
    rw [hrun, ih (h.run (stepsOf event)) (task_run_stepsOf_ne_made hmade event),
      h.toLoading_run_stepsOf hmade event]
    rfl

/-- **Every run is what an interleaving is seen as.** -/
theorem exists_run_of_events (sources : List Delivery) (events : List LoadEvent) :
    ∃ steps, ((start sources).run sources steps).toLoading sources =
      (Loading.ofSources sources).run events :=
  ⟨events.flatMap stepsOf, Sound.start.toLoading_run_flatMap LoadTask.noConfusion events⟩

/-! ### Any interleaving -/

/-- Lookups see the same in a load that is seen as a whole. -/
theorem Sound.visible_toLoading (h : Sound sources l) :
    (l.toLoading sources).visible = l.published := by
  cases h with
  | start => rfl
  | made hcalls => rfl
  | gathering hslots hcalls => rfl
  | ended hcalls =>
    cases hload : Catalogue.ofDeliveries sources with
    | error e => simp [toLoading, Loading.visible, outcomeOf, hload, Except.map, publish]
    | ok loaded => simp [toLoading, Loading.visible, outcomeOf, hload, Except.map, publish]

/-- A caller gets the same in a load that is seen as a whole. -/
theorem Sound.answer?_toLoading (h : Sound sources l) {caller : Nat}
    {outcome : Except Defect Catalogue} (hmem : (caller, CallState.returned outcome) ∈ l.calls) :
    ((l.toLoading sources).answer? caller).map (Except.map Catalogue.Loaded.catalogue) =
      some outcome := by
  have houtcome : outcome = outcomeOf sources := (h.of_returned hmem).1
  cases h with
  | start => simp [SharedLoad.start] at hmem
  | made hcalls => simpa using hcalls _ hmem
  | gathering hslots hcalls => simpa using hcalls _ hmem
  | @ended calls hcalls =>
    have hcaller : caller ∈ (calls.map Prod.fst).reverse :=
      List.mem_reverse.2 (List.mem_map_of_mem hmem)
    have hanswers : (calls.map fun c => (c.1, Catalogue.ofDeliveries sources)).reverse =
        (calls.map Prod.fst).reverse.map
          fun caller => (caller, Catalogue.ofDeliveries sources) := by
      simp [List.map_reverse, Function.comp_def]
    simp only [Loading.answer?, toLoading, hanswers]
    rw [List.lookup_graph (fun _ => Catalogue.ofDeliveries sources) hcaller, houtcome]
    rfl

/-- Whoever asks is among the callers from then on. -/
theorem map_fst_step (sources : List Delivery) (l : SharedLoad) (e : LoadStep) :
    (l.step sources e).calls.map Prod.fst =
      l.calls.map Prod.fst ++ e.caller?.toList := by
  cases e with
  | ask caller =>
    by_cases hloaded : l.published.isLoaded = true
    · simp [step, hloaded, LoadStep.caller?]
    · cases htask : l.task <;> simp [step, hloaded, htask, LoadStep.caller?]
  | begin => cases htask : l.task <;> simp [step, htask, LoadStep.caller?]
  | deliver index => cases htask : l.task <;> simp [step, htask, LoadStep.caller?]
  | finish =>
    cases htask : l.task with
    | absent | made | ended _ => simp [step, htask, LoadStep.caller?]
    | gathering slots =>
      by_cases hall : slots.all Option.isSome = true
      · simp only [step, htask, if_pos hall]
        simp [LoadStep.caller?]
      · simp only [step, htask, if_neg hall]
        simp [LoadStep.caller?]
  | resume index =>
    cases htask : l.task with
    | absent | made | gathering _ => simp [step, htask, LoadStep.caller?]
    | ended outcome =>
      simp only [step, htask, map_fst_modify]
      simp [LoadStep.caller?]

theorem map_fst_run (sources : List Delivery) (l : SharedLoad) (steps : List LoadStep) :
    (l.run sources steps).calls.map Prod.fst =
      l.calls.map Prod.fst ++ steps.filterMap LoadStep.caller? := by
  induction steps generalizing l with
  | nil => simp [run]
  | cons e steps ih =>
    have hrun : l.run sources (e :: steps) = (l.step sources e).run sources steps := rfl
    rw [hrun, ih, map_fst_step, List.append_assoc, List.filterMap_cons]
    cases e.caller? <;> rfl

/-- **Everybody shares one load.** Whatever the sources deliver, and in whatever order callers,
task and sources have their turns:

* nobody who asks is forgotten;
* every source is asked once or not yet, and once as soon as anybody has got an outcome;
* that outcome is for every caller the one that the deliveries come to;
* lookups see either nothing, unloaded, or all of the outcome, loaded;
* what they see when it is loaded they see whatever happens from then on;
* every turn other than a caller's first that makes a difference makes fewer turns left, and
  when no turn makes a difference everybody has got the outcome;
* a run of the load as a whole shows lookups the same, and gives every caller who has got an
  outcome the same. -/
theorem shared_by_all (sources : List Delivery) (steps : List LoadStep) :
    let l := (start sources).run sources steps
    l.calls.map Prod.fst = steps.filterMap LoadStep.caller? ∧
    (l.asked = (sources.map fun _ => 0) ∨ l.asked = sources.map fun _ => 1) ∧
    (∀ caller outcome, (caller, .returned outcome) ∈ l.calls →
      outcome = outcomeOf sources ∧ l.asked = sources.map fun _ => 1) ∧
    (l.published = .unloaded ∨
      (l.published.isLoaded = true ∧ outcomeOf sources = .ok l.published)) ∧
    (l.published.isLoaded = true → ∀ more, (l.run sources more).published = l.published) ∧
    ((∀ e, (∀ caller, e ≠ .ask caller) → l.step sources e ≠ l →
        (l.step sources e).turnsLeft sources < l.turnsLeft sources) ∧
      (Over sources l → ∀ c ∈ l.calls, c.2 = .returned (outcomeOf sources))) ∧
    ∃ events, ((Loading.ofSources sources).run events).visible = l.published ∧
      ∀ caller outcome, (caller, .returned outcome) ∈ l.calls →
        (((Loading.ofSources sources).run events).answer? caller).map
          (Except.map Catalogue.Loaded.catalogue) = some outcome := by
  intro l
  have hsound : Sound sources l := Sound.start.run steps
  have hseen : l.toLoading sources =
      (Loading.ofSources sources).run ((start sources).allSeenAs sources steps) :=
    Sound.start.toLoading_run steps
  refine ⟨?_, hsound.asked_eq, ?_, hsound.published_eq, ?_, ⟨?_, ?_⟩, ?_⟩
  · exact map_fst_run sources (start sources) steps
  · intro caller outcome hmem
    exact hsound.of_returned hmem
  · intro hloaded more
    exact hsound.published_run hloaded more
  · intro e hask hchange
    exact hsound.turnsLeft_step hask hchange
  · exact hsound.returned_of_over
  · refine ⟨_, hseen ▸ hsound.visible_toLoading, fun caller outcome hmem => ?_⟩
    rw [← hseen]
    exact hsound.answer?_toLoading hmem

end SharedLoad

end ClusterTutor
