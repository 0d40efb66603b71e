import ClusterTutor.Proofs.Definition.Token
import ClusterTutor.Proofs.Engine.Delta
import ClusterTutor.Proofs.Engine.ExecutionResult
import ClusterTutor.Proofs.Engine.Executions

/-!
# The footprint of an invocation

The domains that an invocation touches are read off its definition and its flags before
anything is run (`ClusterTutor.Definition.footprint`). The engine does not use them: it goes
through the effects by itself, once to look for a domain that is missing and once to write.
This module shows that the two agree (`ClusterTutor.Definition.footprint_frames`).

| list | what the engine does |
|---|---|
| the domains written | changes no other domain, and the actor only if the actor's is listed |
| the domains read | denies for the first one that does not exist |

In both lists only the tokens of the flags count, whatever their order and spelling, and one
more flag never takes a domain away.
-/

namespace ClusterTutor

/-! ### First occurrences -/

theorem firstOccurrences_cons (x : String) (xs : List String) :
    firstOccurrences (x :: xs) = x :: firstOccurrences (xs.filter fun y => !y == x) :=
  List.eraseDups_cons

@[simp] theorem mem_firstOccurrences {x : String} {xs : List String} :
    x ∈ firstOccurrences xs ↔ x ∈ xs :=
  List.mem_eraseDups

theorem nodup_firstOccurrences : ∀ xs : List String, (firstOccurrences xs).Nodup
  | [] => List.nodup_nil
  | x :: xs => by
    rw [firstOccurrences_cons, List.nodup_cons]
    refine ⟨?_, nodup_firstOccurrences _⟩
    simp
termination_by xs => xs.length
decreasing_by exact Nat.lt_succ_of_le (List.length_filter_le _ xs)

/-- **The first text that passes a test** is the first one among the first occurrences, too:
those that are taken out behind a text pass the test only if it does. -/
theorem find?_firstOccurrences (p : String → Bool) :
    ∀ xs : List String, (firstOccurrences xs).find? p = xs.find? p
  | [] => rfl
  | x :: xs => by
    rw [firstOccurrences_cons, List.find?_cons, List.find?_cons,
      find?_firstOccurrences p (xs.filter fun y => !y == x), List.find?_filter]
    cases hx : p x with
    | true => rfl
    | false =>
      refine congrArg (fun q => xs.find? q) (funext fun y => ?_)
      by_cases hy : y = x
      · simp [hy, hx]
      · simp [hy]
termination_by xs => xs.length
decreasing_by exact Nat.lt_succ_of_le (List.length_filter_le _ xs)

/-! ### The domains that effects touch -/

/-- The domains of the effects that apply to flags, each of them once. -/
def domainsTouched (es : List Effect) (flags : List String) : List String :=
  firstOccurrences ((es.filter (·.applies flags)).map Effect.domain)

section Touched

variable {es : List Effect} {flags flags' : List String} {domain : String}

theorem mem_domainsTouched :
    domain ∈ domainsTouched es flags ↔ ∃ e ∈ es, e.applies flags = true ∧ e.domain = domain := by
  simp [domainsTouched, and_assoc]

/-- An effect still applies when tokens are added. -/
theorem Effect.applies_mono {e : Effect} (h : ∀ f ∈ flags, tokenOf f ∈ flags'.map tokenOf)
    (happ : e.applies flags = true) : e.applies flags' = true := by
  rw [Effect.applies_iff] at happ ⊢
  intro needed hneeded
  obtain ⟨f, hf, hlisted⟩ := happ needed hneeded
  obtain ⟨f', hf', htoken⟩ := List.mem_map.1 (h f hf)
  exact ⟨f', hf', htoken ▸ hlisted⟩

/-- **More tokens touch more domains.** -/
theorem domainsTouched_mono (h : ∀ f ∈ flags, tokenOf f ∈ flags'.map tokenOf) :
    domainsTouched es flags ⊆ domainsTouched es flags' := by
  intro domain hdomain
  obtain ⟨e, he, happ, hname⟩ := mem_domainsTouched.1 hdomain
  exact mem_domainsTouched.2 ⟨e, he, Effect.applies_mono h happ, hname⟩

/-- **The same tokens touch the same domains**, in the same order. -/
theorem domainsTouched_congr (h : ∀ t, t ∈ flags.map tokenOf ↔ t ∈ flags'.map tokenOf) :
    domainsTouched es flags = domainsTouched es flags' := by
  have happ (e : Effect) : e.applies flags = e.applies flags' := by
    rw [Bool.eq_iff_iff]
    constructor
    · exact Effect.applies_mono fun f hf => (h _).1 (List.mem_map_of_mem hf)
    · exact Effect.applies_mono fun f hf => (h _).2 (List.mem_map_of_mem hf)
  rw [domainsTouched, domainsTouched]
  simp only [happ]

end Touched

/-! ### Domains that a state lacks -/

namespace Snapshot

/-- **A state lacks a domain** that is not the actor's and does not exist in it. -/
def Lacks (s : Snapshot) (domain : String) : Prop :=
  domain ≠ ExecutionContext.domain ∧ domain ∉ s.keys

/-- Of some domains, the first one that a state lacks. -/
def FirstLacks (s : Snapshot) (domains : List String) (domain : String) : Prop :=
  ∃ before after, domains = before ++ domain :: after ∧ s.Lacks domain ∧
    ∀ other ∈ before, ¬s.Lacks other

theorem exists_firstLacks_iff {s : Snapshot} {domains : List String} :
    (∃ domain, s.FirstLacks domains domain) ↔ ∃ domain ∈ domains, s.Lacks domain := by
  classical
  constructor
  · rintro ⟨domain, before, after, rfl, hdomain, -⟩
    exact ⟨domain, by simp, hdomain⟩
  · rintro ⟨domain, hmem, hdomain⟩
    have hsome : (domains.find? fun x => decide (s.Lacks x)).isSome = true :=
      List.find?_isSome.2 ⟨domain, hmem, by simpa using hdomain⟩
    obtain ⟨first, hfirst⟩ := Option.isSome_iff_exists.1 hsome
    obtain ⟨hlacks, before, after, hsplit, hbefore⟩ := List.find?_eq_some_iff_append.1 hfirst
    exact ⟨first, before, after, hsplit, by simpa using hlacks,
      fun other hother => by simpa using hbefore other hother⟩

end Snapshot

namespace Definition

theorem footprint_eq (d : Definition) (flags : List String) :
    d.footprint flags = ⟨domainsTouched d.reads flags, domainsTouched d.writes flags⟩ := rfl

variable {d : Definition} {i : Invocation} {s : Snapshot} {domain : String}

/-! ### What is missing -/

/-- What is missing is found among the domains read. -/
theorem missingDomain?_eq (d : Definition) (i : Invocation) (s : Snapshot) :
    d.missingDomain? i s = (d.footprint i.flags.keys).reads.find? fun domain =>
      domain != ExecutionContext.domain && !s.contains domain := by
  rw [footprint_eq, domainsTouched, find?_firstOccurrences, List.find?_map, List.find?_filter,
    missingDomain?]
  congr 2
  funext e
  rw [Bool.eq_iff_iff]
  simp [and_comm, and_left_comm, and_assoc]

/-- **The domain that is missing** is the first one read that the state lacks. -/
theorem missingDomain?_eq_some_iff :
    d.missingDomain? i s = some domain ↔
      s.FirstLacks (d.footprint i.flags.keys).reads domain := by
  have hlacks (x : String) :
      (x != ExecutionContext.domain && !s.contains x) = true ↔ s.Lacks x := by
    simp [Snapshot.Lacks, ← s.contains_iff]
  rw [missingDomain?_eq, List.find?_eq_some_iff_append, Snapshot.FirstLacks, hlacks]
  simp only [Bool.not_eq_true', ← Bool.not_eq_true, hlacks]
  constructor
  · rintro ⟨hdomain, before, after, hreads, hbefore⟩
    exact ⟨before, after, hreads, hdomain, hbefore⟩
  · rintro ⟨before, after, hreads, hdomain, hbefore⟩
    exact ⟨hdomain, before, after, hreads, hbefore⟩

/-- Whether the privilege of the actor is enough for an invocation. -/
def Permits (d : Definition) (context : ExecutionContext) (i : Invocation) : Prop :=
  d.needsRoot i.flags.keys = true → context.isElevated = true

/-- **A check denies for a missing domain** when the privilege is enough and the state lacks a
domain that is read. -/
theorem denial?_eq_missingDomain_iff {context : ExecutionContext} {denial : Denial} :
    d.denial? context i s = some denial ∧ denial.code = "missing_state_domain" ↔
      d.Permits context i ∧ ∃ domain, s.FirstLacks (d.footprint i.flags.keys).reads domain ∧
        denial = .missingDomain d.command domain := by
  by_cases hroot : (d.needsRoot i.flags.keys && !context.isElevated) = true
  · have hforbids : ¬d.Permits context i := by
      simp only [Bool.and_eq_true, Bool.not_eq_true'] at hroot
      intro hpermits
      simp [hpermits hroot.1] at hroot
    rw [denial?, if_pos hroot]
    constructor
    · rintro ⟨hdenial, hcode⟩
      obtain rfl := Option.some.inj hdenial
      simp [Denial.code] at hcode
    · exact fun h => absurd h.1 hforbids
  · have hpermits : d.Permits context i := by
      intro hneeds
      simpa [hneeds] using hroot
    rw [denial?, if_neg hroot]
    simp only [Option.map_eq_some_iff, missingDomain?_eq_some_iff]
    constructor
    · rintro ⟨⟨domain, hdomain, rfl⟩, -⟩
      exact ⟨hpermits, domain, hdomain, rfl⟩
    · rintro ⟨-, domain, hdomain, rfl⟩
      exact ⟨⟨domain, hdomain, rfl⟩, rfl⟩

/-! ### What is written -/

/-- No effect that applies declares a domain that is not listed. -/
theorem domain_ne_of_not_mem_writes (h : domain ∉ (d.footprint i.flags.keys).writes) :
    ∀ w ∈ d.writes, w.applies i.flags.keys = true → w.domain ≠ domain := by
  intro w hw happ hdomain
  exact h (mem_domainsTouched.2 ⟨w, hw, happ, hdomain⟩)

/-- **Only domains written are changed** by an execution. -/
theorem mem_writes_of_get?_execution_ne {context : ExecutionContext} {x : Execution}
    (hx : d.execution? context i s = some x) (h : x.state.get? domain ≠ s.get? domain) :
    domain ∈ (d.footprint i.flags.keys).writes := by
  by_contra hno
  exact h (get?_execution_of_undeclared (domain_ne_of_not_mem_writes hno) hx)

/-- The actor is changed only where the actor's domain is written. -/
theorem mem_writes_of_context_execution_ne {context : ExecutionContext} {x : Execution}
    (hx : d.execution? context i s = some x) (h : x.context ≠ context) :
    ExecutionContext.domain ∈ (d.footprint i.flags.keys).writes := by
  by_contra hno
  exact h (context_execution_of_undeclared (domain_ne_of_not_mem_writes hno) hx)

/-- **A domain written can be written**: if its effects have fields, there is a value to give
with the same flags. -/
theorem exists_mem_keys_writtenBy (h : domain ∈ (d.footprint i.flags.keys).writes)
    (hfields : ∀ w ∈ d.writes, w.domain = domain → w.fields ≠ []) :
    ∃ j : Invocation, j.flags = i.flags ∧ domain ∈ (d.writtenBy j).keys := by
  obtain ⟨w, hw, happ, rfl⟩ := mem_domainsTouched.1 h
  obtain ⟨f, hf⟩ := List.exists_mem_of_ne_nil _ (hfields w hw rfl)
  let j : Invocation := { i with values := OrderedMap.empty.insert f (.bool true) }
  have hsupplied : j.supplied? w.domain f = some (.bool true) := by
    by_cases hname : f = qualifiedName w.domain f
    · simp [j, Invocation.supplied?, ← hname]
    · simp [j, Invocation.supplied?, hname]
  have hvalue : (d.writtenBy j).value? w.domain (.text f) = some (.bool true) := by
    rw [value?_writtenBy, if_pos ⟨w, hw, happ, rfl, List.mem_map_of_mem hf⟩]
    exact hsupplied
  exact ⟨j, rfl, Snapshot.mem_keys_of_value? (Option.isSome_of_eq_some hvalue)⟩

/-- **The footprint of an invocation frames what the engine does.** For every definition:

* an execution changes no domain but those written, and changes the actor only if the
  actor's domain is written;
* a check denies for a missing domain exactly when the privilege is enough and the state
  lacks a domain that is read, and its message names the first of them;
* the footprint depends on nothing but the set of the tokens of the flags, so that dashes
  at their front make no difference;
* no domain is listed twice, and more flags touch no fewer domains;
* no domain written is listed in vain: if its effects have fields, there are values with
  which it is written. -/
theorem footprint_frames (d : Definition) :
    (∀ (e : Engine) c context command (i : Invocation) x, e.catalogue.get? command = some d →
      Exchange.Executes ⟨c, (e.respond c).2⟩ context command i x →
        (∀ domain, (e.respond c).1.state.get? domain ≠ e.state.get? domain →
          domain ∈ (d.footprint i.flags.keys).writes) ∧
        (x.context ≠ context → ExecutionContext.domain ∈ (d.footprint i.flags.keys).writes)) ∧
    (∀ (e : Engine) context command (i : Invocation), e.catalogue.get? command = some d →
      ((∃ denial, (e.check context command i).2 = some denial ∧
          denial.code = "missing_state_domain") ↔
        d.Permits context i ∧ ∃ domain ∈ (d.footprint i.flags.keys).reads, e.state.Lacks domain) ∧
      ∀ denial, (e.check context command i).2 = some denial →
        denial.code = "missing_state_domain" →
          ∃ domain, e.state.FirstLacks (d.footprint i.flags.keys).reads domain ∧
            denial.message = d.command ++ ": no " ++ domain ++ " available yet") ∧
    (∀ flags flags', (∀ t, t ∈ flags.map tokenOf ↔ t ∈ flags'.map tokenOf) →
      d.footprint flags = d.footprint flags') ∧
    (∀ flags (dashes : String → Nat),
      d.footprint (flags.map fun f => String.ofList (List.replicate (dashes f) '-') ++ f) =
        d.footprint flags) ∧
    (∀ flags, (d.footprint flags).reads.Nodup ∧ (d.footprint flags).writes.Nodup) ∧
    (∀ flags flags', flags ⊆ flags' → (d.footprint flags).reads ⊆ (d.footprint flags').reads ∧
      (d.footprint flags).writes ⊆ (d.footprint flags').writes) ∧
    (∀ (i : Invocation) domain, domain ∈ (d.footprint i.flags.keys).writes →
      (∀ w ∈ d.writes, w.domain = domain → w.fields ≠ []) →
        ∃ j : Invocation, j.flags = i.flags ∧ domain ∈ (d.writtenBy j).keys) := by
  have hcongr (flags flags' : List String)
      (h : ∀ t, t ∈ flags.map tokenOf ↔ t ∈ flags'.map tokenOf) :
      d.footprint flags = d.footprint flags' := by
    rw [footprint_eq, footprint_eq, domainsTouched_congr h, domainsTouched_congr h]
  refine ⟨fun e c context command i x hd hx => ?_, fun e context command i hd => ?_, hcongr,
    fun flags dashes => hcongr _ _ fun t => ?_,
    fun flags => ⟨nodup_firstOccurrences _, nodup_firstOccurrences _⟩,
    fun flags flags' h => ?_, fun i domain h hfields => exists_mem_keys_writtenBy h hfields⟩
  · obtain ⟨d', hd', hexec, hengine⟩ := (Engine.step_respond e c).performed hx
    obtain rfl : d = d' := Option.some.inj (hd.symm.trans hd')
    rw [hengine]
    exact ⟨fun domain => mem_writes_of_get?_execution_ne hexec,
      mem_writes_of_context_execution_ne hexec⟩
  · have hcheck : (e.check context command i).2 = d.denial? context i e.state := by
      rw [Engine.check_snd, Engine.denial?, hd]
    rw [hcheck]
    constructor
    · simp only [denial?_eq_missingDomain_iff, ← Snapshot.exists_firstLacks_iff]
      constructor
      · rintro ⟨denial, hpermits, domain, hdomain, -⟩
        exact ⟨hpermits, domain, hdomain⟩
      · rintro ⟨hpermits, domain, hdomain⟩
        exact ⟨_, hpermits, domain, hdomain, rfl⟩
    · intro denial hdenial hcode
      obtain ⟨-, domain, hdomain, rfl⟩ := denial?_eq_missingDomain_iff.1 ⟨hdenial, hcode⟩
      exact ⟨domain, hdomain, rfl⟩
  · simp [tokenOf_dashed]
  · have htokens : ∀ f ∈ flags, tokenOf f ∈ flags'.map tokenOf :=
      fun f hf => List.mem_map_of_mem (h hf)
    exact ⟨domainsTouched_mono htokens, domainsTouched_mono htokens⟩

end Definition

end ClusterTutor
