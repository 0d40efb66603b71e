import ClusterTutor.Proofs.CommandLine.Flags
import ClusterTutor.Proofs.Data.Except
import ClusterTutor.Proofs.Engine.Delta
import ClusterTutor.Proofs.Number.Numeral
import ClusterTutor.Proofs.Privilege.Flags

/-!
# The values that a line supplies

Resolving a line gives one value to each write that applies, under the names of its
fields. A name joins a domain and a field with a dot, and nothing keeps the domain or the
field from having dots of their own, so one name may stand for several fields. What is
supplied under a name is what the last write with that name carries
(`ClusterTutor.Invocation.get?_values_of_ofLine`); whether that write also declares the
field in question is another matter.

Numbers among the values were read of a word, so they have no more digits than can be shown
(`ClusterTutor.Invocation.showable_of_ofLine`).
-/

namespace ClusterTutor

/-- Whether one of the fields of an effect has a name. -/
def Effect.Names (e : Effect) (name : String) : Prop :=
  ∃ f ∈ e.fields, qualifiedName e.domain f = name

instance (e : Effect) (name : String) : Decidable (e.Names name) :=
  inferInstanceAs (Decidable (∃ f ∈ e.fields, qualifiedName e.domain f = name))

/-- What stands before the first dot of a name. -/
theorem takeWhile_qualifiedName {domain : String} (h : '.' ∉ domain.toList) (field : String) :
    (qualifiedName domain field).toList.takeWhile (· != '.') = domain.toList := by
  have hdotless : ∀ c ∈ domain.toList, (c != '.') = true := by
    intro c hc
    have hdot : c ≠ '.' := fun hdot => h (hdot ▸ hc)
    simpa using hdot
  simp [qualifiedName, List.takeWhile_append_of_pos hdotless]

/-- **Domains without dots keep names apart**: such a name says which domain and which
field it is made of. -/
theorem qualifiedName_inj {domain domain' field field' : String} (h : '.' ∉ domain.toList)
    (h' : '.' ∉ domain'.toList) :
    qualifiedName domain field = qualifiedName domain' field' ↔
      domain = domain' ∧ field = field' := by
  constructor
  · intro heq
    have hdomain : domain.toList = domain'.toList := by
      rw [← takeWhile_qualifiedName h field, heq, takeWhile_qualifiedName h']
    obtain rfl := String.toList_inj.1 hdomain
    refine ⟨rfl, String.toList_inj.1 ?_⟩
    simpa [qualifiedName] using congrArg String.toList heq
  · rintro ⟨rfl, rfl⟩
    rfl

theorem Effect.Declares.names {e : Effect} {domain field : String}
    (h : e.Declares domain field) : e.Names (qualifiedName domain field) := by
  obtain ⟨rfl, hfield⟩ := h
  obtain ⟨f, hf, hname⟩ := List.mem_map.1 hfield
  obtain rfl : f = field := FieldName.text.inj hname
  exact ⟨f, hf, rfl⟩

/-- Among domains without dots, a write with the name of a field declares the field. -/
theorem Effect.names_iff_declares {e : Effect} {domain field : String} (he : '.' ∉ e.domain.toList)
    (h : '.' ∉ domain.toList) : e.Names (qualifiedName domain field) ↔ e.Declares domain field := by
  constructor
  · rintro ⟨f, hf, hname⟩
    obtain ⟨hdomain, rfl⟩ := (qualifiedName_inj he h).1 hname
    exact ⟨hdomain, List.mem_map_of_mem hf⟩
  · exact Effect.Declares.names

/-- The last of some effects that applies to flags and passes a test. -/
def lastEffect? (es : List Effect) (flags : List String) (p : Effect → Prop) [DecidablePred p] :
    Option Effect :=
  (es.filter fun e => e.applies flags && decide (p e)).getLast?

section LastEffect

variable {es : List Effect} {flags : List String} {p q : Effect → Prop} [DecidablePred p]
  [DecidablePred q] {e : Effect}

theorem lastEffect?_eq_none_iff :
    lastEffect? es flags p = none ↔ ∀ e ∈ es, e.applies flags = true → ¬p e := by
  simp [lastEffect?]

theorem of_lastEffect?_eq_some (h : lastEffect? es flags p = some e) :
    e ∈ es ∧ e.applies flags = true ∧ p e := by
  have hmem := List.mem_of_getLast? h
  simpa [and_assoc] using hmem

theorem lastEffect?_cons (e : Effect) (es : List Effect) :
    lastEffect? (e :: es) flags p =
      (lastEffect? es flags p).or (if e.applies flags = true ∧ p e then some e else none) := by
  unfold lastEffect?
  by_cases h : e.applies flags = true ∧ p e
  · have hkeep : (e.applies flags && decide (p e)) = true := by simpa using h
    rw [List.filter_cons, if_pos hkeep, List.getLast?_cons, if_pos h]
    cases (es.filter fun e => e.applies flags && decide (p e)).getLast? <;> rfl
  · have hdrop : ¬(e.applies flags && decide (p e)) = true := by simpa using h
    rw [List.filter_cons, if_neg hdrop, if_neg h, Option.or_none]

/-- Two tests that agree on the effects that apply find the same last one. -/
theorem lastEffect?_congr (h : ∀ e ∈ es, e.applies flags = true → (p e ↔ q e)) :
    lastEffect? es flags p = lastEffect? es flags q := by
  unfold lastEffect?
  congr 1
  refine List.filter_congr fun e he => ?_
  cases happ : e.applies flags with
  | false => rfl
  | true => simp [h e he happ]

end LastEffect

/-- The value that an effect of a command carries, where flags are bound in a certain way:
the value of the first of its flags that is bound, then the first word after the
subcommand, and otherwise `true`. -/
def Definition.carried (d : Definition) (p : ParsedLine) (flags : OrderedMap String FlagValue)
    (e : Effect) : Except Numeral.Fault Value :=
  Invocation.effectValue (e.flags.getD []) flags (Invocation.splitWords d p).2

section PlainFlags

variable {p : ParsedLine} (hplain : ∀ k ∈ p.flags.keys, tokenOf k = k)

include hplain

/-- Where names are tokens, the same effects apply to both. -/
theorem applies_flagTokens (e : Effect) :
    e.applies p.flagTokens.keys = e.applies p.flags.keys := by
  refine e.applies_congr fun t => ?_
  rw [ParsedLine.mem_keys_flagTokens]
  constructor
  · rintro ⟨k, hk, rfl⟩
    rwa [hplain k hk]
  · intro ht
    exact ⟨t, ht, hplain t ht⟩

/-- Where names are tokens, effects carry the same by both. -/
theorem carried_flagTokens (d : Definition) (e : Effect) :
    d.carried p p.flagTokens e = d.carried p p.flags e := by
  have hsame : p.flagTokens.get? = p.flags.get? := funext (ParsedLine.get?_flagTokens hplain)
  simp only [Definition.carried, Invocation.effectValue, hsame]

end PlainFlags

namespace Invocation

/-- Resolving effects one after the other binds a name to what the last effect with that
name carries. -/
theorem get?_effectValues {flags : OrderedMap String FlagValue} {words : List String}
    {es : List Effect} {values m : OrderedMap String Value}
    (h : effectValues flags words es values = .ok m) (name : String) :
    match lastEffect? es flags.keys (·.Names name) with
    | none => m.get? name = values.get? name
    | some e => ∃ v, effectValue (e.flags.getD []) flags words = .ok v ∧ m.get? name = some v := by
  induction es generalizing values with
  | nil =>
    obtain rfl : values = m := Except.ok.inj h
    rfl
  | cons e es ih =>
    rw [lastEffect?_cons]
    unfold effectValues at h
    cases happ : e.applies flags.keys with
    | false =>
      simp only [happ, Bool.false_eq_true, if_false] at h
      simpa using ih h
    | true =>
      cases hv : effectValue (e.flags.getD []) flags words with
      | error fault => simp [happ, hv] at h
      | ok v =>
        simp only [happ, hv, if_true] at h
        -- The rest of the effects starts from the names of this one, which a later effect
        -- may bind again.
        have hrest := ih h
        cases hlast : lastEffect? es flags.keys (·.Names name) with
        | some e' => simpa [hlast] using hrest
        | none =>
          simp only [hlast, OrderedMap.get?_insertAll_const] at hrest
          by_cases hname : e.Names name
          · have hname' : ∃ f ∈ e.fields, qualifiedName e.domain f = name := hname
            simp only [hname', if_true] at hrest
            simp [hname, hv, hrest]
          · have hname' : ¬∃ f ∈ e.fields, qualifiedName e.domain f = name := hname
            simp only [hname', if_false] at hrest
            simp [hname, hrest]

variable {d : Definition} {p : ParsedLine} {i : Invocation}

/-- A line is resolved when all writes that apply have a value. -/
theorem ofLine_eq_ok_iff :
    ofLine d p = .ok i ↔
      ∃ values, effectValues p.flags (splitWords d p).2 d.writes .empty = .ok values ∧
        i = make (p.flags.toList.map fun f => (f.1, flagValue f.2)) (splitWords d p).1 values := by
  unfold ofLine
  rw [bind_eq_ok]
  refine exists_congr fun values => and_congr_right fun _ => ?_
  simp [pure, Except.pure, eq_comm]

/-- The flags of a resolved line are the tokens of the flags that were typed. -/
theorem mem_keys_flags_of_ofLine (h : ofLine d p = .ok i) (t : String) :
    t ∈ i.flags.keys ↔ t ∈ p.flagTokens.keys := by
  obtain ⟨values, -, rfl⟩ := ofLine_eq_ok_iff.1 h
  rw [ParsedLine.mem_keys_flagTokens, make, OrderedMap.ofList, OrderedMap.mem_keys_insertAll]
  simp [OrderedMap.keys, OrderedMap.empty]

/-- **A name is bound to what the last write with that name carries**, and to nothing if
no write that applies has it. -/
theorem get?_values_of_ofLine (h : ofLine d p = .ok i) (name : String) :
    match lastEffect? d.writes p.flags.keys (·.Names name) with
    | none => i.values.get? name = none
    | some e => ∃ v, d.carried p p.flags e = .ok v ∧ i.values.get? name = some v := by
  obtain ⟨values, hvalues, rfl⟩ := ofLine_eq_ok_iff.1 h
  exact get?_effectValues hvalues name

/-! ### Numbers that are typed -/

theorem isShowable_of_valueOfWord {w : String} {v : Value} (h : valueOfWord w = .ok v) :
    v.isShowable = true := by
  unfold valueOfWord at h
  split at h
  · obtain ⟨n, hn, rfl⟩ := map_eq_ok.1 h
    rw [Value.isShowable]
    exact decide_eq_true (Numeral.natAbs_lt_of_readInt hn)
  · rw [← Except.ok.inj h]
    rfl

theorem isShowable_of_effectValue {needed : List String} {flags : OrderedMap String FlagValue}
    {words : List String} {v : Value} (h : effectValue needed flags words = .ok v) :
    v.isShowable = true := by
  unfold effectValue at h
  split at h
  · exact isShowable_of_valueOfWord h
  · rw [← Except.ok.inj h]
    rfl
  · split at h
    · exact isShowable_of_valueOfWord h
    · rw [← Except.ok.inj h]
      rfl

/-- **What a line supplies can be shown**: a number in it was read, so it is not too long. -/
theorem showable_of_ofLine (h : ofLine d p = .ok i) : i.Showable := by
  intro name v hv
  have hvalue := get?_values_of_ofLine h name
  split at hvalue
  · rw [hvalue] at hv
    cases hv
  · obtain ⟨v', hcarried, hget⟩ := hvalue
    obtain rfl : v' = v := Option.some.inj (hget.symm.trans hv)
    exact isShowable_of_effectValue hcarried

end Invocation

end ClusterTutor
