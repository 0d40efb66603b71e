import ClusterTutor.Proofs.Catalogue.Containment
import ClusterTutor.Proofs.Definition.Reading
import Mathlib.Data.List.Nodup
import Mathlib.Data.List.Perm.Basic
import Mathlib.Logic.Relation

/-!
# What a loaded catalogue holds

What a load leaves in the catalogue depends on the delivered records alone, in their order,
and on none of those that it passes over. Three things are said of a load that completes
(`ClusterTutor.Catalogue.contents_of_ofDeliveries`).

* **Every command has its first well-formed record.** One record at a time, a load does to
  the definitions what `ClusterTutor.Catalogue.takeUp` says, whatever was reported before.
  Records that are passed over leave the definitions alone, so more or fewer of them
  (`ClusterTutor.Catalogue.PassesOverMore`) make no difference.
* **Everything is counted once**: a record is either kept or skipped, and a failed source is
  skipped (`ClusterTutor.Catalogue.Progress.Counts`).
* **All views show the same definitions**, and the categories part them
  (`ClusterTutor.Catalogue.Orderly`).
-/

namespace ClusterTutor

/-! ### Parts of a list -/

/-- The parts of a list by a key, for all keys that there are, make up the list. -/
theorem perm_flatMap_filter {α : Type} (key : α → String) {keys : List String}
    (hkeys : keys.Nodup) {xs : List α} (h : ∀ x ∈ xs, key x ∈ keys) :
    (keys.flatMap fun k => xs.filter fun x => key x == k).Perm xs := by
  induction keys generalizing xs with
  | nil =>
    have hnil : xs = [] := List.eq_nil_iff_forall_not_mem.2 fun x hx => by simpa using h x hx
    simp [hnil]
  | cons k keys ih =>
    obtain ⟨hk, hnodup⟩ := List.nodup_cons.1 hkeys
    -- The other keys part what is left of the list without the first one.
    have hothers : ∀ x ∈ xs.filter fun x => !(key x == k), key x ∈ keys := by
      intro x hx
      obtain ⟨hmem, hne⟩ := List.mem_filter.1 hx
      rcases List.mem_cons.1 (h x hmem) with hxk | hxkeys
      · simp [hxk] at hne
      · exact hxkeys
    have hsame : ∀ k' ∈ keys, ((xs.filter fun x => !(key x == k)).filter fun x => key x == k') =
        xs.filter fun x => key x == k' := by
      intro k' hk'
      have hne : k' ≠ k := fun hkk => hk (hkk ▸ hk')
      rw [List.filter_filter]
      refine List.filter_congr fun x _ => ?_
      by_cases hx : key x = k'
      · simp [hx, hne]
      · simp [hx]
    have hrest := ih hnodup hothers
    rw [List.flatMap_congr hsame] at hrest
    rw [List.flatMap_cons]
    exact (hrest.append_left _).trans (List.filter_append_perm _ xs)

namespace Catalogue

/-! ### What a record does to the definitions -/

/-- Definitions after one more record: a definition is kept if it is the first one of its
command, and anything else is passed over. -/
def takeUp (definitions : OrderedMap String Definition) (record : Value) :
    OrderedMap String Definition :=
  match Definition.ofValue record with
  | .error _ => definitions
  | .ok d =>
    if definitions.contains d.command then definitions else definitions.insert d.command d

/-- The definitions that some deliveries come to. -/
def definitionsOf (ds : List Delivery) : OrderedMap String Definition :=
  (deliveredRecords ds).foldl takeUp .empty

/-- **A record that is passed over** after some others: it is malformed, or its command has
a definition already. -/
def PassedOver (earlier : List Value) (record : Value) : Prop :=
  (∃ e, Definition.ofValue record = .error e) ∨
    ∃ d, Definition.ofValue record = .ok d ∧ (firstDefinition? earlier d.command).isSome = true

/-- **Something more that a load passes over**, put anywhere among what was delivered: a
source that failed, or a record that is malformed or comes after one of the same command,
in a source with others or in one of its own. -/
inductive PassesOverMore : List Delivery → List Delivery → Prop
  /-- There is one more source, and it has failed. -/
  | source (before after : List Delivery) (fault : SourceFault) :
    PassesOverMore (before ++ after) (before ++ .error fault :: after)
  /-- There is one more record in a source. -/
  | record (before after : List Delivery) {v v' r : Value} {rs rs' : List Value} :
    recordsOf v = rs ++ rs' → recordsOf v' = rs ++ r :: rs' →
    PassedOver (deliveredRecords before ++ rs) r →
    PassesOverMore (before ++ .ok v :: after) (before ++ .ok v' :: after)
  /-- There is one more source, of one record. -/
  | lone (before after : List Delivery) {r : Value} :
    recordsOf r = [r] → PassedOver (deliveredRecords before) r →
    PassesOverMore (before ++ after) (before ++ .ok r :: after)

theorem deliveredRecords_append (ds more : List Delivery) :
    deliveredRecords (ds ++ more) = deliveredRecords ds ++ deliveredRecords more :=
  List.flatMap_append

theorem get?_takeUp (m : OrderedMap String Definition) (r : Value) (command : String) :
    (takeUp m r).get? command = (m.get? command).or (definitionIn? command r) := by
  cases hr : Definition.ofValue r with
  | error e => simp [takeUp, definitionIn?, hr, Except.toOption]
  | ok d =>
    have hin : definitionIn? command r = if d.command = command then some d else none := by
      simpa [firstDefinition?] using firstDefinition?_singleton hr command
    rw [hin]
    by_cases hknown : m.contains d.command = true
    · obtain ⟨d', hd'⟩ := Option.isSome_iff_exists.1 hknown
      by_cases hcommand : d.command = command
      · subst hcommand
        simp [takeUp, hr, hknown, hd']
      · simp [takeUp, hr, hknown, hcommand]
    · have hnone : m.get? d.command = none := by simpa [OrderedMap.contains] using hknown
      by_cases hcommand : d.command = command
      · subst hcommand
        simp [takeUp, hr, hknown, hnone]
      · simp [takeUp, hr, hknown, hcommand]

/-- **The definition of a command is the one in its first well-formed record.** -/
theorem get?_foldl_takeUp (records : List Value) (m : OrderedMap String Definition)
    (command : String) :
    (records.foldl takeUp m).get? command =
      (m.get? command).or (firstDefinition? records command) := by
  induction records generalizing m with
  | nil => simp [firstDefinition?]
  | cons r records ih =>
    rw [List.foldl_cons, ih, get?_takeUp, Option.or_assoc]
    congr 1
    simpa [firstDefinition?] using (firstDefinition?_append [r] records command).symm

/-- **A record that is passed over leaves the definitions alone.** -/
theorem PassedOver.takeUp_eq {records : List Value} {r : Value} (h : PassedOver records r) :
    takeUp (records.foldl takeUp .empty) r = records.foldl takeUp .empty := by
  rcases h with ⟨e, he⟩ | ⟨d, hd, hfirst⟩
  · simp [takeUp, he]
  · have hknown : (records.foldl takeUp .empty).contains d.command = true := by
      rw [OrderedMap.contains, get?_foldl_takeUp]
      simpa using hfirst
    simp [takeUp, hd, hknown]

/-- A record that is passed over may be left out, whatever comes after it. -/
theorem PassedOver.foldl_takeUp {records : List Value} {r : Value} (h : PassedOver records r)
    (more : List Value) :
    (records ++ r :: more).foldl takeUp .empty = (records ++ more).foldl takeUp .empty := by
  rw [List.foldl_append, List.foldl_cons, h.takeUp_eq, List.foldl_append]

/-- **What is passed over makes no difference.** -/
theorem PassesOverMore.definitionsOf_eq {ds ds' : List Delivery} (h : PassesOverMore ds ds') :
    definitionsOf ds' = definitionsOf ds := by
  cases h with
  | source before after fault =>
    simp [definitionsOf, deliveredRecords]
  | @record before after v v' r rs rs' hv hv' hr =>
    have hleft : deliveredRecords (before ++ .ok v' :: after) =
        deliveredRecords before ++ rs ++ r :: (rs' ++ deliveredRecords after) := by
      rw [deliveredRecords_append, deliveredRecords_cons, deliveredRecords_ok, hv']
      simp
    have hright : deliveredRecords (before ++ .ok v :: after) =
        deliveredRecords before ++ rs ++ (rs' ++ deliveredRecords after) := by
      rw [deliveredRecords_append, deliveredRecords_cons, deliveredRecords_ok, hv]
      simp
    rw [definitionsOf, definitionsOf, hleft, hright, hr.foldl_takeUp]
  | @lone before after r hlone hr =>
    have hleft : deliveredRecords (before ++ .ok r :: after) =
        deliveredRecords before ++ r :: deliveredRecords after := by
      rw [deliveredRecords_append, deliveredRecords_cons, deliveredRecords_ok, hlone]
      simp
    rw [definitionsOf, definitionsOf, hleft, hr.foldl_takeUp, deliveredRecords_append]

/-- However much is put in or taken out of what is passed over makes no difference. -/
theorem definitionsOf_eq_of_eqvGen {ds ds' : List Delivery}
    (h : Relation.EqvGen PassesOverMore ds ds') : definitionsOf ds' = definitionsOf ds := by
  induction h with
  | rel _ _ h => exact h.definitionsOf_eq
  | refl _ => rfl
  | symm _ _ _ ih => exact ih.symm
  | trans _ _ _ _ _ ih ih' => exact ih'.trans ih

/-! ### Counting -/

/-- How many of the sources have failed. -/
def failures (ds : List Delivery) : Nat :=
  ds.countP fun d => !d.isOk

namespace Progress

variable {p p' p'' : Progress} {records more : List Value} {r : Value} {failed failed' : Nat}

/-- **How a load counts** some more records and failed sources: it makes of the definitions
what the records make of them, each record and each failure adds one to what is kept or to
what is skipped, and there is a warning for each that is skipped. -/
structure Counts (p : Progress) (records : List Value) (failed : Nat) (p' : Progress) : Prop where
  /-- The records are taken up. -/
  definitions : p'.definitions = records.foldl takeUp p.definitions
  /-- Everything is kept or skipped. -/
  total : p'.definitions.size + p'.skipped =
    p.definitions.size + p.skipped + records.length + failed
  /-- What is skipped is reported. -/
  reports : ∃ warnings : List Notice, (∀ n ∈ warnings, n.level = "WARNING") ∧
    p'.reports = warnings ++ p.reports ∧ p'.skipped = p.skipped + warnings.length

namespace Counts

theorem refl (p : Progress) : p.Counts [] 0 p where
  definitions := rfl
  total := rfl
  reports := ⟨[], by simp, rfl, rfl⟩

theorem trans (h : p.Counts records failed p') (h' : p'.Counts more failed' p'') :
    p.Counts (records ++ more) (failed + failed') p'' where
  definitions := by rw [List.foldl_append, ← h.definitions, h'.definitions]
  total := by
    have htotal := h.total
    have htotal' := h'.total
    rw [List.length_append]
    omega
  reports := by
    obtain ⟨warnings, hlevel, hreports, hskipped⟩ := h.reports
    obtain ⟨warnings', hlevel', hreports', hskipped'⟩ := h'.reports
    refine ⟨warnings' ++ warnings, ?_, ?_, ?_⟩
    · intro n hn
      rcases List.mem_append.1 hn with hn | hn
      · exact hlevel' n hn
      · exact hlevel n hn
    · rw [hreports', hreports, List.append_assoc]
    · rw [hskipped', hskipped, List.length_append]
      omega

/-- A failed source is skipped. -/
theorem failure (p : Progress) (index : Nat) (fault : SourceFault) :
    p.Counts [] 1 (p.skip (.skippedSource index fault)) where
  definitions := rfl
  total := rfl
  reports := ⟨[.skippedSource index fault], by simp [Notice.level], rfl, rfl⟩

/-- A record is skipped if it leaves the definitions alone. -/
theorem skip {n : Notice} (hlevel : n.level = "WARNING")
    (h : takeUp p.definitions r = p.definitions) :
    p.Counts [r] 0 (p.skip n) where
  definitions := h.symm
  total := rfl
  reports := ⟨[n], by simpa using hlevel, rfl, rfl⟩

end Counts

theorem size_insert_of_not_contains {m : OrderedMap String Definition} {command : String}
    (h : m.contains command = false) (d : Definition) : (m.insert command d).size = m.size + 1 := by
  have hkeys := m.keys_insert command d
  have hnew : command ∉ m.keys := by
    rw [← OrderedMap.contains_iff, h]
    simp
  rw [if_neg hnew] at hkeys
  have hlength := congrArg List.length hkeys
  simpa [OrderedMap.keys, OrderedMap.size] using hlength

/-- A record is counted once, however it is dealt with. -/
theorem counts_of_addRecord (h : p.addRecord r = .ok p') : p.Counts [r] 0 p' := by
  cases hr : Definition.ofValue r with
  | error e =>
    by_cases hcontained : e.isContained = true
    · obtain rfl : p.skip (.skippedRecord e) = p' := by simpa [addRecord, hr, hcontained] using h
      exact .skip rfl (by simp [takeUp, hr])
    · simp [addRecord, hr, hcontained] at h
  | ok d =>
    by_cases hknown : p.definitions.contains d.command = true
    · obtain rfl : p.skip (.repeatedDefinition d.command) = p' := by
        simpa [addRecord, hr, hknown] using h
      exact .skip rfl (by simp [takeUp, hr, hknown])
    · obtain rfl : { p with definitions := p.definitions.insert d.command d } = p' := by
        simpa [addRecord, hr, hknown] using h
      rw [Bool.not_eq_true] at hknown
      refine ⟨?_, ?_, [], by simp, rfl, rfl⟩
      · simp [takeUp, hr, hknown]
      · have hsize := size_insert_of_not_contains hknown d
        simp only [hsize, List.length_singleton]
        omega

theorem counts_of_addRecords (h : records.foldlM addRecord p = .ok p') :
    p.Counts records 0 p' := by
  induction records generalizing p with
  | nil =>
    obtain rfl := Except.ok.inj h
    exact .refl p
  | cons r records ih =>
    rw [List.foldlM_cons] at h
    obtain ⟨q, hq, hrest⟩ := bind_eq_ok.1 h
    exact (counts_of_addRecord hq).trans (ih hrest)

theorem counts_of_addDelivery {d : Delivery} {index : Nat} (h : p.addDelivery index d = .ok p') :
    p.Counts (deliveredRecords [d]) (failures [d]) p' := by
  cases d with
  | error fault =>
    obtain rfl := Except.ok.inj h
    exact .failure p index fault
  | ok v =>
    rw [deliveredRecords_ok]
    exact counts_of_addRecords h

/-- **A load counts everything once.** -/
theorem counts_of_addDeliveries {ds : List Delivery} {index : Nat}
    (h : p.addDeliveries index ds = .ok p') : p.Counts (deliveredRecords ds) (failures ds) p' := by
  induction ds generalizing p index with
  | nil =>
    obtain rfl := Except.ok.inj h
    exact .refl p
  | cons d ds ih =>
    obtain ⟨q, hq, hrest⟩ := bind_eq_ok.1 h
    have hfailures : failures (d :: ds) = failures [d] + failures ds := by
      rw [← List.singleton_append, failures, List.countP_append]
      rfl
    rw [deliveredRecords_cons, hfailures]
    exact (counts_of_addDelivery hq).trans (ih hrest)

end Progress

/-! ### Views -/

/-- The definition in the first well-formed record of a command is one of that command, and
its category is one of those that there are. -/
theorem of_firstDefinition?_eq_some {records : List Value} {command : String} {d : Definition}
    (h : firstDefinition? records command = some d) :
    d.command = command ∧ d.category ∈ categories := by
  obtain ⟨r, -, hr⟩ := List.exists_of_findSome?_eq_some h
  obtain ⟨hd, hcommand⟩ := Option.filter_eq_some_iff.1 hr
  cases hread : Definition.ofValue r with
  | error e => simp [hread, Except.toOption] at hd
  | ok d' =>
    obtain rfl : d' = d := by simpa [hread, Except.toOption] using hd
    obtain ⟨-, -, -, hcategory, -⟩ := Definition.exists_fields_of_ofValue hread
    exact ⟨by simpa using hcommand, by simpa using hcategory⟩

/-- **A catalogue in which every definition stands under its own command**, and in a category
that there is. -/
def Keyed (c : Catalogue) : Prop :=
  ∀ command d, c.get? command = some d → d.command = command ∧ d.category ∈ categories

/-- **The views of a catalogue agree**, and the categories part it. -/
structure Orderly (c : Catalogue) : Prop where
  /-- The names increase. -/
  names_increasing : c.names.Pairwise (· < ·)
  /-- They are the names of what there is. -/
  mem_names : ∀ command, command ∈ c.names ↔ c.has command = true
  /-- There is what can be looked up. -/
  has_iff : ∀ command, c.has command = true ↔ ∃ d, c.get? command = some d
  /-- A definition is found under its own command. -/
  command_eq : ∀ command d, c.get? command = some d → d.command = command
  /-- There are as many definitions as names. -/
  size_eq : c.size = c.names.length
  /-- Every category is in the order of names. -/
  category_increasing : ∀ category,
    ((c.byCategory category).map Definition.command).Pairwise (· < ·)
  /-- A category has the definitions that name it. -/
  mem_byCategory : ∀ category d,
    d ∈ c.byCategory category ↔ c.get? d.command = some d ∧ d.category = category
  /-- The categories together have every definition once. -/
  perm_values : (categories.flatMap c.byCategory).Perm c.definitions.values

namespace Keyed

variable {c : Catalogue}

theorem names_increasing (c : Catalogue) : c.names.Pairwise (· < ·) :=
  Text.increasing_sorted c.definitions.nodup_keys

theorem mem_names (c : Catalogue) (command : String) :
    command ∈ c.names ↔ c.has command = true := by
  rw [names, Text.mem_sorted, has, OrderedMap.contains_iff]

/-- The definitions in the order of their names. -/
theorem map_command_filterMap (h : c.Keyed) :
    (c.names.filterMap c.get?).map Definition.command = c.names := by
  have hall : ∀ command ∈ c.names, (c.get? command).map Definition.command = some command := by
    intro command hcommand
    obtain ⟨d, hd⟩ := Option.isSome_iff_exists.1 ((mem_names c command).1 hcommand)
    have hget : c.get? command = some d := hd
    rw [hget, Option.map_some, (h command d hget).1]
  rw [List.map_filterMap, List.filterMap_congr hall, List.filterMap_some]

theorem mem_filterMap (h : c.Keyed) {d : Definition} :
    d ∈ c.names.filterMap c.get? ↔ c.get? d.command = some d := by
  rw [List.mem_filterMap]
  constructor
  · rintro ⟨command, -, hd⟩
    rw [(h command d hd).1]
    exact hd
  · intro hd
    have hhas : c.has d.command = true := Option.isSome_iff_exists.2 ⟨d, hd⟩
    exact ⟨d.command, (mem_names c d.command).2 hhas, hd⟩

theorem mem_values (h : c.Keyed) {d : Definition} :
    d ∈ c.definitions.values ↔ c.get? d.command = some d := by
  simp only [OrderedMap.values, List.mem_map, Prod.exists, OrderedMap.mem_toList_iff]
  constructor
  · rintro ⟨command, d', hd, rfl⟩
    have hcommand : d'.command = command := (h command d' hd).1
    rw [hcommand]
    exact hd
  · intro hd
    exact ⟨d.command, d, hd, rfl⟩

/-- Definitions are told apart by their commands. -/
theorem nodup_values (h : c.Keyed) : c.definitions.values.Nodup := by
  have hkeys : c.definitions.values.map Definition.command = c.definitions.keys := by
    rw [OrderedMap.values, OrderedMap.keys, List.map_map]
    refine List.map_congr_left fun e he => ?_
    exact (h e.1 e.2 ((OrderedMap.mem_toList_iff _ e.1 e.2).1 he)).1
  refine List.Nodup.of_map Definition.command ?_
  rw [hkeys]
  exact c.definitions.nodup_keys

theorem perm_filterMap (h : c.Keyed) :
    (c.names.filterMap c.get?).Perm c.definitions.values := by
  have hnodup : (c.names.filterMap c.get?).Nodup := by
    refine List.Nodup.of_map Definition.command ?_
    rw [h.map_command_filterMap]
    exact (names_increasing c).imp fun hlt => String.ne_of_lt hlt
  refine (List.perm_ext_iff_of_nodup hnodup h.nodup_values).2 fun d => ?_
  rw [h.mem_filterMap, h.mem_values]

/-- **In a catalogue where definitions stand under their own commands all views agree.** -/
theorem orderly (h : c.Keyed) : c.Orderly where
  names_increasing := names_increasing c
  mem_names := mem_names c
  has_iff command := Option.isSome_iff_exists
  command_eq command d hd := (h command d hd).1
  size_eq := by simp [size, OrderedMap.size, names, OrderedMap.keys]
  category_increasing category := by
    -- A category is a part of the definitions in the order of their names.
    have hsub : ((c.byCategory category).map Definition.command).Sublist c.names := by
      rw [← h.map_command_filterMap]
      exact List.filter_sublist.map _
    exact (names_increasing c).sublist hsub
  mem_byCategory category d := by
    rw [byCategory, List.mem_filter, h.mem_filterMap, beq_iff_eq]
  perm_values := by
    have hcategories : ∀ d ∈ c.names.filterMap c.get?, d.category ∈ categories :=
      fun d hd => (h d.command d (h.mem_filterMap.1 hd)).2
    exact (perm_flatMap_filter Definition.category (by decide) hcategories).trans h.perm_filterMap

end Keyed

/-! ### Loads that complete -/

variable {ds : List Delivery} {loaded : Loaded}

/-- **What a load comes to**, if it completes: the definitions that the records come to, and
a warning for everything that was skipped, with the two numbers at the end. -/
theorem of_ofDeliveries_eq_ok (h : ofDeliveries ds = .ok loaded) :
    loaded.catalogue = ⟨true, definitionsOf ds⟩ ∧
      ∃ warnings : List Notice, (∀ n ∈ warnings, n.level = "WARNING") ∧
        loaded.reports = warnings ++ [.loaded loaded.catalogue.size warnings.length] ∧
        loaded.catalogue.size + warnings.length =
          (deliveredRecords ds).length + failures ds := by
  obtain ⟨p, hp, hloaded⟩ := bind_eq_ok.1 h
  obtain rfl := Except.ok.inj hloaded
  obtain ⟨hdefinitions, htotal, warnings, hlevel, hreports, hskipped⟩ :=
    Progress.counts_of_addDeliveries hp
  have hsize : p.definitions.size + warnings.length =
      (deliveredRecords ds).length + failures ds := by
    simpa [Progress.start, OrderedMap.size, OrderedMap.empty, hskipped] using htotal
  refine ⟨?_, warnings.reverse, ?_, ?_, ?_⟩
  · simp only [hdefinitions]
    rfl
  · intro n hn
    exact hlevel n (List.mem_reverse.1 hn)
  · simp [hreports, hskipped, Progress.start, size]
  · rw [List.length_reverse]
    exact hsize

/-- A load completes if no record ends it. -/
theorem exists_ofDeliveries_iff (ds : List Delivery) :
    (∃ loaded, ofDeliveries ds = .ok loaded) ↔
      ∀ r ∈ deliveredRecords ds, ¬Definition.EndsLoad r := by
  constructor
  · rintro ⟨loaded, hloaded⟩ r hr hends
    rw [ofDeliveries_of_endsLoad hr hends] at hloaded
    simp at hloaded
  · intro hall
    obtain ⟨loaded, hloaded, -⟩ := exists_ofDeliveries hall
    exact ⟨loaded, hloaded⟩

/-- **What a completed load contains.** Whatever the sources deliver, if the load completes:

* every command has the definition in its first well-formed record, in the order of sources
  and records, and there is nothing else;
* what was kept and what was skipped add up to the records and the sources that failed, and
  the last report says how many there are of both, after one warning for each that was
  skipped;
* if malformed records, failed sources and further definitions of a command are put in or
  taken out anywhere, the load still completes unless one of the records ends it, and then
  the catalogue is the same;
* the views of the catalogue agree, and the categories part it. -/
theorem contents_of_ofDeliveries (h : ofDeliveries ds = .ok loaded) :
    (∀ command,
      loaded.catalogue.get? command = firstDefinition? (deliveredRecords ds) command) ∧
    (∃ warnings : List Notice, (∀ n ∈ warnings, n.level = "WARNING") ∧
      loaded.reports = warnings ++ [.loaded loaded.catalogue.size warnings.length] ∧
      loaded.catalogue.size + warnings.length = (deliveredRecords ds).length + failures ds) ∧
    (∀ ds', Relation.EqvGen PassesOverMore ds ds' →
      ((∃ loaded', ofDeliveries ds' = .ok loaded') ↔
        ∀ r ∈ deliveredRecords ds', ¬Definition.EndsLoad r) ∧
      ∀ loaded', ofDeliveries ds' = .ok loaded' → loaded'.catalogue = loaded.catalogue) ∧
    loaded.catalogue.Orderly := by
  obtain ⟨hcatalogue, hreports⟩ := of_ofDeliveries_eq_ok h
  have hget : ∀ command,
      loaded.catalogue.get? command = firstDefinition? (deliveredRecords ds) command := by
    intro command
    rw [hcatalogue, get?, definitionsOf, get?_foldl_takeUp, OrderedMap.get?_empty, Option.none_or]
  refine ⟨hget, hreports, fun ds' hds' => ⟨exists_ofDeliveries_iff ds', fun loaded' h' => ?_⟩, ?_⟩
  · obtain ⟨hcatalogue', -⟩ := of_ofDeliveries_eq_ok h'
    rw [hcatalogue', hcatalogue, definitionsOf_eq_of_eqvGen hds']
  · have hkeyed : loaded.catalogue.Keyed :=
      fun command d hd => of_firstDefinition?_eq_some ((hget command).symm.trans hd)
    exact hkeyed.orderly

/-- A record of a command, with its category. -/
def commandRecord (command category : String) : Value :=
  .object [("command", .string command), ("category", .string category)]

/-- Sources of all kinds: one that failed, a list with a malformed record between two in
order, and a single record that defines a command again. -/
def mixedSources : List Delivery := [
  .error .notDocument,
  .ok (.array [
    commandRecord "squeue" "cluster_management",
    commandRecord "broken" "astrology",
    commandRecord "ibstat" "networking"]),
  .ok (commandRecord "squeue" "general")]

/-- The same sources without what is passed over. -/
def plainSources : List Delivery := [
  .ok (.array [commandRecord "squeue" "cluster_management", commandRecord "ibstat" "networking"])]

theorem passesOverMore_mixedSources : Relation.EqvGen PassesOverMore mixedSources plainSources := by
  have hbroken : PassedOver (deliveredRecords [] ++ [commandRecord "squeue" "cluster_management"])
      (commandRecord "broken" "astrology") := .inl ⟨_, rfl⟩
  have hrecord : PassesOverMore plainSources [.ok (.array [
      commandRecord "squeue" "cluster_management", commandRecord "broken" "astrology",
      commandRecord "ibstat" "networking"])] := .record [] [] rfl rfl hbroken
  have hsource := PassesOverMore.source [] [.ok (.array [
      commandRecord "squeue" "cluster_management", commandRecord "broken" "astrology",
      commandRecord "ibstat" "networking"])] .notDocument
  have hagain : PassedOver (deliveredRecords (mixedSources.take 2))
      (commandRecord "squeue" "general") := .inr ⟨_, rfl, rfl⟩
  have hlone : PassesOverMore (mixedSources.take 2) mixedSources :=
    .lone (mixedSources.take 2) [] rfl hagain
  exact .symm _ _ (.trans _ _ _ (.rel _ _ hrecord)
    (.trans _ _ _ (.rel _ _ hsource) (.rel _ _ hlone)))

/-- Of five things that were delivered two definitions are kept and three are skipped, and the
catalogue is the same without the three. -/
theorem contents_of_mixedSources :
    ∃ loaded, ofDeliveries mixedSources = .ok loaded ∧
      loaded.catalogue.size = 2 ∧
      (loaded.catalogue.get? "squeue").map Definition.category = some "cluster_management" ∧
      loaded.reports.getLast? = some (.loaded 2 3) ∧
      ∃ loaded', ofDeliveries plainSources = .ok loaded' ∧
        loaded'.catalogue = loaded.catalogue := by
  have hmixed : ∃ loaded, ofDeliveries mixedSources = .ok loaded := ⟨_, rfl⟩
  obtain ⟨loaded, hloaded⟩ := hmixed
  obtain ⟨hget, ⟨warnings, -, hreports, hcount⟩, hsame, -⟩ := contents_of_ofDeliveries hloaded
  have hsize : loaded.catalogue.size = 2 := by
    obtain rfl := Except.ok.inj hloaded
    rfl
  have hskipped : warnings.length = 3 := by
    have hdelivered : (deliveredRecords mixedSources).length + failures mixedSources = 5 := rfl
    omega
  obtain ⟨hiff, hequal⟩ := hsame plainSources passesOverMore_mixedSources
  have hplain : ∃ loaded', ofDeliveries plainSources = .ok loaded' := ⟨_, rfl⟩
  obtain ⟨loaded', hloaded'⟩ := hplain
  refine ⟨loaded, hloaded, hsize, ?_, ?_, loaded', hloaded', hequal loaded' hloaded'⟩
  · rw [hget]
    rfl
  · rw [hreports, hsize, hskipped]
    simp

end Catalogue

end ClusterTutor
