import ClusterTutor.Proofs.Engine.Calls
import ClusterTutor.Proofs.Session.WriteValues
import ClusterTutor.Session.Line

/-!
# What a line writes

The declarations of a command say what a line should write: a field that a write declares
gets the value that the last such write carries, and every other field is kept
(`ClusterTutor.Definition.WritesDeclared`). What a line does write goes through the names
of the fields, and twice through the tokens of the flags. This module finds the lines for
which both come to the same (`ClusterTutor.Definition.keepsDeclarations_iff_keepsNamesApart`).

They are those of which the names are kept apart: where one name stands for several
fields, the last write with the name must carry what the last write that declares the
field carries. Where domains have no dots and flags no equals signs at their ends, this
is always so.
-/

namespace ClusterTutor

namespace Definition

/-- The last write of a line that declares a field. -/
def lastDeclaring? (d : Definition) (p : ParsedLine) (domain : String) (field : FieldName) :
    Option Effect :=
  lastEffect? d.writes p.flags.keys (·.Declares domain field)

/-- The last write of a line with a name. -/
def lastNamed? (d : Definition) (p : ParsedLine) (name : String) : Option Effect :=
  lastEffect? d.writes p.flags.keys (·.Names name)

/-- **What the declarations say of a line**: a field that a write of the line declares
gets what the last such write carries, and every other field is kept. -/
def WritesDeclared (d : Definition) (p : ParsedLine) (old new : Snapshot) : Prop :=
  ∀ domain field, domain ≠ ExecutionContext.domain →
    match d.lastDeclaring? p domain field with
    | some e => ∃ v, d.carried p p.flagTokens e = .ok v ∧ new.value? domain field = some v
    | none => new.value? domain field = old.value? domain field

/-- Whether a line, resolved to an invocation, writes what is declared wherever it is
allowed. -/
def KeepsDeclarations (d : Definition) (p : ParsedLine) (i : Invocation) : Prop :=
  ∀ (e e' : Engine) (context : ExecutionContext) (command : String) (x : Execution),
    e.catalogue.get? command = some d → e.attempt context command i = (e', .ok (.ok x)) →
      d.WritesDeclared p e.state e'.state

/-- **The names of a line are kept apart** when the detour through names and tokens makes
no difference to any field. -/
structure KeepsNamesApart (d : Definition) (p : ParsedLine) : Prop where
  /-- The last write with the name of a declared field carries what the last write that
  declares the field should carry, and the field is still declared for the tokens of the
  flags. -/
  declared : ∀ (domain field : String) (e : Effect), domain ≠ ExecutionContext.domain →
    d.lastDeclaring? p domain field = some e →
      (∃ w ∈ d.writes, w.applies p.flagTokens.keys = true ∧ w.Declares domain field) ∧
        ∃ e' v, d.lastNamed? p (qualifiedName domain field) = some e' ∧
          d.carried p p.flags e' = .ok v ∧ d.carried p p.flagTokens e = .ok v
  /-- No write has a name of a field that is declared for the tokens of the flags only. -/
  undeclared : ∀ domain field : String, domain ≠ ExecutionContext.domain →
    d.lastDeclaring? p domain field = none →
      (∃ w ∈ d.writes, w.applies p.flagTokens.keys = true ∧ w.Declares domain field) →
        d.lastNamed? p (qualifiedName domain field) = none ∧ d.lastNamed? p field = none

variable {d : Definition} {p : ParsedLine} {i : Invocation}

/-- What is written to a field by a resolved line. -/
theorem value?_writtenBy_of_ofLine (hi : Invocation.ofLine d p = .ok i) (domain : String)
    (field : FieldName) :
    (d.writtenBy i).value? domain field =
      if ∃ w ∈ d.writes, w.applies p.flagTokens.keys = true ∧ w.Declares domain field then
        i.suppliedTo? domain field
      else none := by
  have happ : ∀ w : Effect, w.applies i.flags.keys = w.applies p.flagTokens.keys :=
    fun w => w.applies_congr (Invocation.mem_keys_flags_of_ofLine hi)
  simp only [value?_writtenBy, happ]

theorem supplied?_of_lastNamed? (hi : Invocation.ofLine d p = .ok i) {domain field : String}
    {e : Effect} (h : d.lastNamed? p (qualifiedName domain field) = some e) :
    ∃ v, d.carried p p.flags e = .ok v ∧ i.supplied? domain field = some v := by
  have hvalue := Invocation.get?_values_of_ofLine hi (qualifiedName domain field)
  rw [← lastNamed?, h] at hvalue
  obtain ⟨v, hv, hget⟩ := hvalue
  exact ⟨v, hv, by simp [Invocation.supplied?, hget]⟩

theorem supplied?_eq_none_iff (hi : Invocation.ofLine d p = .ok i) {domain field : String} :
    i.supplied? domain field = none ↔
      d.lastNamed? p (qualifiedName domain field) = none ∧ d.lastNamed? p field = none := by
  have hunbound : ∀ name, i.values.get? name = none ↔ d.lastNamed? p name = none := by
    intro name
    have hvalue := Invocation.get?_values_of_ofLine hi name
    rw [← lastNamed?] at hvalue
    cases h : d.lastNamed? p name with
    | none => simpa [h] using hvalue
    | some e =>
      rw [h] at hvalue
      obtain ⟨v, -, hget⟩ := hvalue
      simp [hget]
  rw [← hunbound, ← hunbound]
  unfold Invocation.supplied?
  cases i.values.get? (qualifiedName domain field) <;> simp

@[simp] theorem value?_empty (domain : String) (field : FieldName) :
    Snapshot.value? .empty domain field = none := rfl

/-- **Names that are kept apart** are those under which a resolved line writes what is
declared. -/
theorem keepsNamesApart_iff (hi : Invocation.ofLine d p = .ok i) :
    d.KeepsNamesApart p ↔ d.WritesDeclared p .empty (d.writtenBy i) := by
  constructor
  · rintro ⟨hdeclared, hundeclared⟩ domain field hdomain
    rw [value?_writtenBy_of_ofLine hi]
    cases hlast : d.lastDeclaring? p domain field with
    | some e =>
      obtain ⟨-, -, hdecl⟩ := of_lastEffect?_eq_some hlast
      obtain ⟨f, rfl⟩ := hdecl.exists_text
      obtain ⟨happlies, e', v, hnamed, hv', hv⟩ := hdeclared domain f e hdomain hlast
      obtain ⟨w, hw, hsupplied⟩ := supplied?_of_lastNamed? hi hnamed
      obtain rfl : v = w := Except.ok.inj (hv'.symm.trans hw)
      refine ⟨v, hv, ?_⟩
      rw [if_pos happlies]
      exact hsupplied
    | none =>
      rw [value?_empty, ite_eq_right_iff]
      intro happlies
      have ⟨w, _, _, hdecl⟩ := happlies
      obtain ⟨f, rfl⟩ := hdecl.exists_text
      exact (supplied?_eq_none_iff hi).2 (hundeclared domain f hdomain hlast happlies)
  · intro h
    refine ⟨fun domain field e hdomain hlast => ?_, fun domain field hdomain hlast happlies => ?_⟩
    · have hfield := h domain field hdomain
      rw [hlast, value?_writtenBy_of_ofLine hi] at hfield
      obtain ⟨v, hv, hwritten⟩ := hfield
      -- A field for which nothing is written has no value, whatever carries its name.
      by_cases happlies :
          ∃ w ∈ d.writes, w.applies p.flagTokens.keys = true ∧ w.Declares domain field
      · rw [if_pos happlies] at hwritten
        have hnames : d.lastNamed? p (qualifiedName domain field) ≠ none := by
          intro hnone
          obtain ⟨he, happ, hdecl⟩ := of_lastEffect?_eq_some hlast
          exact lastEffect?_eq_none_iff.1 hnone e he happ hdecl.names
        obtain ⟨e', hnamed⟩ := Option.ne_none_iff_exists'.1 hnames
        obtain ⟨w, hw, hsupplied⟩ := supplied?_of_lastNamed? hi hnamed
        obtain rfl : w = v := Option.some.inj (hsupplied.symm.trans hwritten)
        exact ⟨happlies, e', w, hnamed, hw, hv⟩
      · rw [if_neg happlies] at hwritten
        simp at hwritten
    · have hfield := h domain field hdomain
      rw [hlast, value?_writtenBy_of_ofLine hi, if_pos happlies] at hfield
      exact (supplied?_eq_none_iff hi).1 hfield

/-- **A use in which everything is allowed and nothing is there yet**: the actor is root,
and the state has the domains that the command reads, without fields. -/
theorem exists_attempt_of_blank (d : Definition) (hi : i.Showable) :
    ∃ (e e' : Engine) (context : ExecutionContext) (command : String) (x : Execution),
      e.catalogue.get? command = some d ∧ e.attempt context command i = (e', .ok (.ok x)) ∧
        (∀ domain field, e.state.value? domain field = none) ∧
        d.execution? context i e.state = some x ∧ e'.state = x.state := by
  let state : Snapshot := .ofList (d.reads.map fun r => (r.domain, .empty))
  let e : Engine := .start ⟨true, .ofList [(d.command, d)]⟩ state 0
  have hstate : ∀ domain, state.get? domain =
      if ∃ r ∈ d.reads, r.domain = domain then some .empty else none :=
    fun domain => OrderedMap.get?_insertAll_const _ _ _ _ domain
  have hd : e.catalogue.get? d.command = some d := by
    simp [e, Engine.start, Catalogue.get?, OrderedMap.ofList]
  have hmissing : d.missingDomain? i state = none := by
    simp only [missingDomain?, Option.map_eq_none_iff, List.find?_eq_none]
    intro r hr
    have hhas : state.contains r.domain = true := by
      rw [OrderedMap.contains, hstate, if_pos ⟨r, hr, rfl⟩]
      rfl
    simp [hhas]
  have hallowed : d.denial? { privilege := rootPrivilege } i e.state = none := by
    simp [denial?, ExecutionContext.isElevated, e, Engine.start, hmissing]
  obtain ⟨x, hx⟩ := (d.exists_execution_iff _ _ _).2 (d.actorShown_of_showable hi)
  refine ⟨e, _, _, d.command, x, hd, Engine.attempt_eq_ok_iff.2 ⟨d, hd, hallowed, hx, rfl⟩, ?_, hx,
    rfl⟩
  intro domain field
  change Snapshot.value? state domain field = none
  rw [Snapshot.value?, hstate]
  split
  · rfl
  · rfl

/-- A line writes what is declared wherever it is allowed exactly when its delta is what is
declared. -/
theorem keepsDeclarations_iff_writesDeclared (hi : i.Showable) :
    d.KeepsDeclarations p i ↔ d.WritesDeclared p .empty (d.writtenBy i) := by
  constructor
  · -- On a state without fields the new state is what was written.
    intro h domain field hdomain
    obtain ⟨e, e', context, command, x, hd, hatt, hblank, hx, hnew⟩ :=
      exists_attempt_of_blank d hi
    have hkept := h e e' context command x hd hatt domain field hdomain
    simpa [hnew, value?_execution hx hdomain, hblank] using hkept
  · intro h e e' context command x hd hatt domain field hdomain
    obtain ⟨d', hd', -, hx, rfl⟩ := Engine.attempt_eq_ok_iff.1 hatt
    obtain rfl : d = d' := Option.some.inj (hd.symm.trans hd')
    have hnew : (e.after context x).state.value? domain field =
        ((d.writtenBy i).value? domain field).or (e.state.value? domain field) :=
      value?_execution hx hdomain field
    have hwritten := h domain field hdomain
    cases hlast : d.lastDeclaring? p domain field with
    | some w =>
      rw [hlast] at hwritten
      obtain ⟨v, hv, hvalue⟩ := hwritten
      exact ⟨v, hv, by rw [hnew, hvalue, Option.some_or]⟩
    | none =>
      simp only [hlast, value?_empty] at hwritten
      simp only [hnew, hwritten, Option.none_or]

/-- Where no flag ends with an equals sign, only the names matter. -/
theorem keepsNamesApart_iff_of_plain (hi : Invocation.ofLine d p = .ok i)
    (hplain : ∀ k ∈ p.flags.keys, tokenOf k = k) :
    d.KeepsNamesApart p ↔
      ∀ (domain field : String) (e : Effect), domain ≠ ExecutionContext.domain →
        d.lastDeclaring? p domain field = some e →
          ∃ e', d.lastNamed? p (qualifiedName domain field) = some e' ∧
            d.carried p p.flags e' = d.carried p p.flags e := by
  constructor
  · intro h domain field e hdomain hlast
    obtain ⟨-, e', v, hnamed, hv', hv⟩ := h.declared domain field e hdomain hlast
    rw [carried_flagTokens hplain] at hv
    exact ⟨e', hnamed, hv'.trans hv.symm⟩
  · intro h
    refine ⟨fun domain field e hdomain hlast => ?_, fun domain field hdomain hlast happlies => ?_⟩
    · obtain ⟨he, happ, hdecl⟩ := of_lastEffect?_eq_some hlast
      obtain ⟨e', hnamed, hsame⟩ := h domain field e hdomain hlast
      obtain ⟨v, hv, -⟩ := supplied?_of_lastNamed? hi hnamed
      refine ⟨⟨e, he, ?_, hdecl⟩, e', v, hnamed, hv, ?_⟩
      · rwa [applies_flagTokens hplain]
      · rw [carried_flagTokens hplain, ← hsame, hv]
    · obtain ⟨w, hw, happ, hdecl⟩ := happlies
      rw [applies_flagTokens hplain] at happ
      exact absurd hdecl (lastEffect?_eq_none_iff.1 hlast w hw happ)

/-- Where, moreover, no domain has a dot, the names are kept apart. -/
theorem keepsNamesApart_of_dotless (hi : Invocation.ofLine d p = .ok i)
    (hplain : ∀ k ∈ p.flags.keys, tokenOf k = k)
    (hdotless : ∀ w ∈ d.writes, '.' ∉ w.domain.toList) : d.KeepsNamesApart p := by
  rw [keepsNamesApart_iff_of_plain hi hplain]
  intro domain field e _ hlast
  obtain ⟨he, -, rfl, -⟩ := of_lastEffect?_eq_some hlast
  refine ⟨e, ?_, rfl⟩
  rw [← hlast]
  exact lastEffect?_congr fun w hw _ =>
    Effect.names_iff_declares (hdotless w hw) (hdotless e he)

/-- **The meaning of a line that writes.** Once a line is resolved, it writes what its
declarations say – the value that the last write declaring a field carries, and nothing
else – in every state and for every actor that it is allowed to, exactly when its names
are kept apart. Of lines without flags that end with an equals sign, these are the lines
whose last write with the name of a declared field carries what the last write declaring
it carries; and without dots in the domains, these are all of them. -/
theorem keepsDeclarations_iff_keepsNamesApart (d : Definition) (line : String) (p : ParsedLine)
    (hp : p = ParsedLine.ofLine d.schema? line) (i : Invocation)
    (hi : Invocation.ofLine d p = .ok i) :
    (d.KeepsDeclarations p i ↔ d.KeepsNamesApart p) ∧
    ((∀ k ∈ p.flags.keys, ¬EndsWithEquals k) →
      (d.KeepsNamesApart p ↔
        ∀ (domain field : String) (e : Effect), domain ≠ ExecutionContext.domain →
          d.lastDeclaring? p domain field = some e →
            ∃ e', d.lastNamed? p (qualifiedName domain field) = some e' ∧
              d.carried p p.flags e' = d.carried p p.flags e) ∧
      ((∀ w ∈ d.writes, '.' ∉ w.domain.toList) → d.KeepsNamesApart p)) := by
  have hshow : i.Showable := Invocation.showable_of_ofLine hi
  refine ⟨(keepsDeclarations_iff_writesDeclared hshow).trans (keepsNamesApart_iff hi).symm,
    fun hplain => ?_⟩
  have htokens : ∀ k ∈ p.flags.keys, tokenOf k = k := by
    rw [hp] at hplain ⊢
    exact ParsedLine.tokenOf_of_mem_flags hplain
  exact ⟨keepsNamesApart_iff_of_plain hi htokens, keepsNamesApart_of_dotless hi htokens⟩

end Definition

/-! ### A name for two fields -/

/-- The record of a tool with two writes on flags of their own. -/
def mtuRecord (domain field domain' field' : String) : Value :=
  .object [
    ("command", .string "linkset"),
    ("global_options", .array [
      .object [("short", .string "a"), ("arguments", .string "MTU")],
      .object [("short", .string "b"), ("arguments", .string "MTU")]]),
    ("state_interactions", .object [
      ("writes_to", .array [
        .object [
          ("state_domain", .string domain),
          ("fields", .array [.string field]),
          ("requires_flags", .array [.string "a"])],
        .object [
          ("state_domain", .string domain'),
          ("fields", .array [.string field']),
          ("requires_flags", .array [.string "b"])]])])]

/-- The definition of such a tool. -/
def mtuTool (domain field domain' field' : String) : Definition where
  command := "linkset"
  synopsis := "linkset"
  options :=
    [{ short := some "a", arguments := some "MTU" }, { short := some "b", arguments := some "MTU" }]
  interactions := some {
    writes := [
      { domain, fields := [field], flags := some ["a"] },
      { domain := domain', fields := [field'], flags := some ["b"] }] }

/-- A line that gives both flags of such a tool. -/
def mtuLine : ParsedLine where
  command := "linkset"
  flags := .ofList [("a", .given "1"), ("b", .given "2")]

theorem ofLine_mtuLine (domain field domain' field' : String) :
    ParsedLine.ofLine (mtuTool domain field domain' field').schema? "linkset -a 1 -b 2" =
      mtuLine := by
  have hschema : (mtuTool domain field domain' field').schema? =
      some (.ofList [("a", true), ("b", true)]) := rfl
  have hwords : CommandLine.words? (Text.trim "linkset -a 1 -b 2") =
      some ["linkset", "-a", "1", "-b", "2"] := by decide
  have hparts : CommandLine.partsOf (some (.ofList [("a", true), ("b", true)]))
      ["-a", "1", "-b", "2"] = [.separate "a" "1", .separate "b" "2"] := by decide
  rw [ParsedLine.ofLine, hschema, hwords]
  simp only [Option.getD_some, ParsedLine.ofWords, hparts]
  rfl

/-- With domains without dots both fields get values of their own. -/
theorem plainDomains_keepDeclarations :
    ∃ i, mtuLine = ParsedLine.ofLine (mtuTool "ib0" "mtu" "net" "mtu").schema? "linkset -a 1 -b 2" ∧
      Invocation.ofLine (mtuTool "ib0" "mtu" "net" "mtu") mtuLine = .ok i ∧
      (mtuTool "ib0" "mtu" "net" "mtu").KeepsDeclarations mtuLine i := by
  have hp := ofLine_mtuLine "ib0" "mtu" "net" "mtu"
  obtain ⟨i, hi⟩ : ∃ i, Invocation.ofLine (mtuTool "ib0" "mtu" "net" "mtu") mtuLine = .ok i :=
    ⟨_, rfl⟩
  have hline := Definition.keepsDeclarations_iff_keepsNamesApart _ "linkset -a 1 -b 2" mtuLine
    hp.symm i hi
  refine ⟨i, hp.symm, hi, hline.1.2 ((hline.2 ?_).2 ?_)⟩
  · unfold EndsWithEquals
    decide
  · decide

/-- **A value in a field of another write.** The first write declares the field `mtu` of
`net.ib0` and carries 1, the second one the field `ib0.mtu` of `net` and carries 2. Both
fields have the same name, and both get 2. -/
theorem dottedDomain_gets_value_of_other_write :
    let d := mtuTool "net.ib0" "mtu" "net" "ib0.mtu"
    let c := Catalogue.ofDefinitions [d]
    Definition.ofValue (mtuRecord "net.ib0" "mtu" "net" "ib0.mtu") = .ok d ∧
    ParsedLine.ofLine d.schema? "linkset -a 1 -b 2" = mtuLine ∧
    Session.rejectedWord? c d mtuLine = none ∧
    ∃ i e x, Invocation.ofLine d mtuLine = .ok i ∧
      (Engine.start c .empty 100).attempt {} "linkset" i = (e, .ok (.ok x)) ∧
      (∃ w, d.lastDeclaring? mtuLine "net.ib0" "mtu" = some w ∧
        d.carried mtuLine mtuLine.flagTokens w = .ok (.int 1)) ∧
      e.state.value? "net.ib0" "mtu" = some (.int 2) ∧ ¬d.KeepsDeclarations mtuLine i := by
  intro d c
  refine ⟨rfl, ofLine_mtuLine "net.ib0" "mtu" "net" "ib0.mtu", rfl, _, _, _, rfl, rfl,
    ⟨_, rfl, rfl⟩, rfl, ?_⟩
  intro hkept
  have hfield :=
    hkept (Engine.start c .empty 100) _ {} "linkset" _ rfl rfl "net.ib0" "mtu" (by decide)
  obtain ⟨v, hv, hvalue⟩ := hfield
  have hdeclared : .int 1 = v := Except.ok.inj hv
  have hwritten : .int 2 = v := Option.some.inj hvalue
  rw [← hdeclared] at hwritten
  exact absurd (Value.int.inj hwritten) (by decide)

end ClusterTutor
