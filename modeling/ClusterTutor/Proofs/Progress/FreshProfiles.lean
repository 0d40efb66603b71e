import ClusterTutor.Proofs.Data.Except
import ClusterTutor.Proofs.Progress.Folds

/-!
# A new profile has no past

Facts may be recorded of any number, also of one whose profile was deleted, and nothing ties
them to a profile that is there. That a new profile starts without facts rests on its number
alone: it is above all numbers that were answered before (`ClusterTutor.Store.Numbered`), so
if facts are only recorded of numbers that were answered (`ClusterTutor.Store.NotesCreated`),
there are none of this one yet.

The profiles that are there are told from the calls: those that were created and not deleted
since (`ClusterTutor.Store.Live`).
-/

namespace ClusterTutor

/-- The profile that an answer names as created. -/
def StoreAnswer.created? : StoreAnswer → Option Profile
  | .created p => some p
  | _ => none

namespace Store

variable {s s' : Store} {cs : List StoreCall}

/-- The answers to several calls, one after the other. -/
def answers (s : Store) : List StoreCall → List StoreAnswer
  | [] => []
  | c :: cs => (s.call c).2 :: answers (s.call c).1 cs

theorem answers_concat (s : Store) (cs : List StoreCall) (c : StoreCall) :
    s.answers (cs ++ [c]) = s.answers cs ++ [((s.run cs).call c).2] := by
  induction cs generalizing s with
  | nil => rfl
  | cons c' cs ih => simp [answers, ih, run]

/-- **The profiles that calls of an empty store have created**, the latest last. -/
def created (cs : List StoreCall) : List Profile :=
  (answers {} cs).filterMap StoreAnswer.created?

theorem created_concat (cs : List StoreCall) (c : StoreCall) :
    created (cs ++ [c]) = created cs ++ ((run {} cs).call c).2.created?.toList := by
  rw [created, answers_concat, List.filterMap_append]
  cases hcreated : ((run {} cs).call c).2.created? <;> simp [created, hcreated]

theorem mem_created_append {p : Profile} (h : p ∈ created cs) (cs' : List StoreCall) :
    p ∈ created (cs ++ cs') := by
  induction cs' using List.reverseRecOn with
  | nil => simpa using h
  | append_singleton cs' c ih =>
    rw [← List.append_assoc, created_concat]
    exact List.mem_append_left _ ih

/-- **Facts are recorded of created profiles only**: each of a number that was answered
before, whether or not the profile was deleted since. -/
def NotesCreated (cs : List StoreCall) : Prop :=
  ∀ i n fact, cs[i]? = some (.record n fact) → ∃ p ∈ created (cs.take i), p.id.toInt = n

/-- **A profile is live** after some calls: one of them created it, and no later one deletes
it. -/
def Live (cs : List StoreCall) (p : Profile) : Prop :=
  ∃ before after, cs = before ++ .create p.name :: after ∧
    ((run {} before).call (.create p.name)).2 = .created p ∧ StoreCall.delete p.id ∉ after

/-! ### What a call does to the profiles -/

/-- Recording a fact leaves the profiles and their numbers alone. -/
theorem profiles_of_note {profile : ProfileNumber} {fact : Fact}
    (h : s.note profile fact = .ok s') : s'.profiles = s.profiles ∧ s'.lastId = s.lastId := by
  cases fact with
  | tool family name =>
    rw [← Except.ok.inj h]
    exact ⟨rfl, rfl⟩
  | quiz family passed score =>
    obtain ⟨r, hr, rfl⟩ := map_eq_ok.1 h
    simp only [recordQuiz] at hr
    split at hr
    · cases hr
    · rw [← Except.ok.inj hr]
      exact ⟨rfl, rfl⟩
  | tier family n =>
    obtain ⟨r, hr, rfl⟩ := map_eq_ok.1 h
    simp only [recordTier] at hr
    split at hr
    · cases hr
    · rw [← Except.ok.inj hr]
      exact ⟨rfl, rfl⟩
  | gate name result =>
    simp only [note, recordGate] at h
    split at h
    · cases h
    · rw [← Except.ok.inj h]
      exact ⟨rfl, rfl⟩
  | step lab name result =>
    simp only [note, recordStep] at h
    split at h
    · cases h
    · rw [← Except.ok.inj h]
      exact ⟨rfl, rfl⟩
  | review family event =>
    rw [note_review, putOff_eq] at h
    split at h
    · cases h
    · rw [← Except.ok.inj h]
      exact ⟨rfl, rfl⟩

theorem call_record_profiles (s : Store) (n : Int) (fact : Fact) :
    (s.call (.record n fact)).1.profiles = s.profiles ∧
    (s.call (.record n fact)).1.lastId = s.lastId ∧
    (s.call (.record n fact)).2.created? = none := by
  simp only [call]
  cases ProfileNumber.ofInt n with
  | error fault => exact ⟨rfl, rfl, rfl⟩
  | ok profile =>
    cases hnote : s.note profile fact with
    | ok s' =>
      obtain ⟨hprofiles, hlast⟩ := profiles_of_note hnote
      simp [hnote, hprofiles, hlast, StoreAnswer.created?]
    | error fault => simp [hnote, StoreAnswer.created?]

/-- Deleting a number removes its profile, if there is one, and leaves the numbers alone. -/
theorem call_delete_profiles (s : Store) (n : Int) :
    (s.call (.delete n)).1.profiles = s.profiles.filter (fun p => p.id.toInt != n) ∧
    (s.call (.delete n)).1.lastId = s.lastId ∧
    (s.call (.delete n)).2.created? = none := by
  cases hn : ProfileNumber.ofInt? n with
  | none =>
    have hother : ∀ p ∈ s.profiles, (p.id.toInt != n) = true := by
      intro p _
      simpa using (ProfileNumber.ofInt?_eq_none_iff.1 hn p.id).symm
    rw [(call_of_ofInt?_eq_none hn s).1, List.filter_eq_self.2 hother]
    exact ⟨rfl, rfl, rfl⟩
  | some profile =>
    obtain rfl := ProfileNumber.ofInt?_eq_some_iff.1 hn
    rw [call_delete]
    refine ⟨List.filter_congr fun p _ => ?_, rfl, rfl⟩
    simp [bne, Bool.beq_eq_decide_eq]

/-! ### Live profiles -/

/-- A call keeps the live profiles, but for one that it deletes, and adds one that it
creates. -/
theorem live_concat (cs : List StoreCall) (c : StoreCall) (p : Profile) :
    Live (cs ++ [c]) p ↔
      (Live cs p ∧ c ≠ .delete p.id) ∨
      (c = .create p.name ∧ ((run {} cs).call c).2 = .created p) := by
  constructor
  · rintro ⟨before, after, heq, hcreated, hkept⟩
    -- The last call is the one that created the profile, or one after it.
    rcases List.eq_nil_or_concat' after with rfl | ⟨after, c', rfl⟩
    · obtain ⟨rfl, hc⟩ := List.append_inj' heq rfl
      obtain rfl : c = .create p.name := by simpa using hc
      exact .inr ⟨rfl, hcreated⟩
    · rw [← List.cons_append, ← List.append_assoc] at heq
      obtain ⟨rfl, hc⟩ := List.append_inj' heq rfl
      obtain rfl : c = c' := by simpa using hc
      simp only [List.mem_append, List.mem_singleton, not_or] at hkept
      exact .inl ⟨⟨before, after, rfl, hcreated, hkept.1⟩, Ne.symm hkept.2⟩
  · rintro (⟨⟨before, after, rfl, hcreated, hkept⟩, hc⟩ | ⟨rfl, hcreated⟩)
    · refine ⟨before, after ++ [c], by simp, hcreated, ?_⟩
      simp only [List.mem_append, List.mem_singleton, not_or]
      exact ⟨hkept, Ne.symm hc⟩
    · exact ⟨cs, [], rfl, hcreated, List.not_mem_nil⟩

/-- **The profiles that are there are the live ones.** -/
theorem mem_profiles_run (cs : List StoreCall) (p : Profile) :
    p ∈ (run {} cs).profiles ↔ Live cs p := by
  induction cs using List.reverseRecOn with
  | nil =>
    refine ⟨fun h => absurd h List.not_mem_nil, ?_⟩
    rintro ⟨before, after, heq, -⟩
    simp at heq
  | append_singleton cs c ih =>
    rw [run_concat, live_concat, ← ih]
    cases c with
    | create name =>
      rcases call_create (run {} cs) name with ⟨-, hcall⟩ | ⟨-, hcall⟩ | ⟨id, -, -, hcall⟩
      · simp [hcall]
      · simp [hcall]
      · simp only [hcall, List.mem_append, List.mem_singleton, StoreAnswer.created.injEq]
        constructor
        · rintro (hp | rfl)
          · exact .inl ⟨hp, by simp⟩
          · exact .inr ⟨rfl, rfl⟩
        · rintro (⟨hp, -⟩ | ⟨-, hp⟩)
          · exact .inl hp
          · exact .inr hp.symm
    | delete n =>
      simp only [(call_delete_profiles _ n).1, List.mem_filter, bne_iff_ne, ne_eq,
        StoreCall.delete.injEq, reduceCtorEq, false_and, or_false]
      exact and_congr_right fun _ => not_congr eq_comm
    | record n fact =>
      rw [(call_record_profiles _ n fact).1]
      simp

/-! ### Numbers -/

/-- **Profiles are numbered upward**: those that are there have different names, and the
numbers of all that were created increase and are at most the last number. -/
structure Numbered (s : Store) (ps : List Profile) : Prop where
  /-- Two profiles have different names. -/
  names : (s.profiles.map Profile.name).Nodup
  /-- The numbers increase. -/
  increasing : (ps.map fun p => p.id.toInt).Pairwise (· < ·)
  /-- The last number bounds them. -/
  le_lastId : ∀ p ∈ ps, p.id.toInt ≤ s.lastId
  /-- It is one of them, if there is any. -/
  lastId_eq : s.lastId = 0 ∨ ∃ p ∈ ps, p.id.toInt = s.lastId

theorem numbered_run (cs : List StoreCall) : (run {} cs).Numbered (created cs) := by
  induction cs using List.reverseRecOn with
  | nil =>
    exact ⟨List.nodup_nil, List.Pairwise.nil, fun _ hp => absurd hp List.not_mem_nil, .inl rfl⟩
  | append_singleton cs c ih =>
    obtain ⟨hnames, hincreasing, hle, hlastId⟩ := ih
    rw [run_concat, created_concat]
    cases c with
    | create name =>
      rcases call_create (run {} cs) name with ⟨-, hcall⟩ | ⟨-, hcall⟩ | ⟨id, hid, hnew, hcall⟩
      · rw [hcall]
        simpa [StoreAnswer.created?] using ⟨hnames, hincreasing, hle, hlastId⟩
      · rw [hcall]
        simpa [StoreAnswer.created?] using ⟨hnames, hincreasing, hle, hlastId⟩
      · rw [hcall]
        refine ⟨?_, ?_, ?_, .inr ⟨⟨id, name⟩, by simp [StoreAnswer.created?], rfl⟩⟩
        · simp only [List.map_append, List.map_singleton]
          refine List.Nodup.append hnames (List.nodup_singleton _) ?_
          intro name' hmem hname
          obtain ⟨p, hp, rfl⟩ := List.mem_map.1 hmem
          exact hnew p hp (List.mem_singleton.1 hname)
        · simp only [StoreAnswer.created?, Option.toList_some, List.map_append,
            List.map_singleton, List.pairwise_append]
          -- The last number bounds the earlier ones, and the new one is above it.
          refine ⟨hincreasing, List.pairwise_singleton _ _, fun n hn n' hn' => ?_⟩
          obtain ⟨p, hp, rfl⟩ := List.mem_map.1 hn
          have hbound := hle p hp
          rw [List.mem_singleton.1 hn']
          omega
        · intro p hp
          rcases List.mem_append.1 hp with hp | hp
          · have hbound := hle p hp
            simp only
            omega
          · rw [List.mem_singleton.1 hp]
    | delete n =>
      obtain ⟨hprofiles, hlast, hcreated⟩ := call_delete_profiles (run {} cs) n
      rw [hcreated, Option.toList_none, List.append_nil]
      refine ⟨?_, hincreasing, fun p hp => hlast ▸ hle p hp, hlast ▸ hlastId⟩
      rw [hprofiles]
      exact hnames.sublist (List.filter_sublist.map _)
    | record n fact =>
      obtain ⟨hprofiles, hlast, hcreated⟩ := call_record_profiles (run {} cs) n fact
      rw [hcreated, Option.toList_none, List.append_nil]
      exact ⟨hprofiles ▸ hnames, hincreasing, fun p hp => hlast ▸ hle p hp, hlast ▸ hlastId⟩

/-- The store is full once the last number that it can hold was given out. -/
theorem exists_created_of_full {ps : List Profile} (h : s.Numbered ps)
    (hfull : ProfileNumber.ofInt? (s.lastId + 1) = none) :
    ∃ p ∈ ps, p.id.toInt = 9223372036854775807 := by
  have hunfit := ProfileNumber.ofInt?_eq_none_iff.1 hfull
  rcases h.lastId_eq with hzero | ⟨p, hp, hlast⟩
  · exact absurd (by rw [hzero]; rfl) (hunfit 1)
  · refine ⟨p, hp, ?_⟩
    have hfits := p.id.fits
    rw [fitsStore, Bool.and_eq_true, decide_eq_true_iff, decide_eq_true_iff] at hfits
    by_contra hne
    refine hunfit ⟨s.lastId + 1, ?_⟩ rfl
    rw [fitsStore, Bool.and_eq_true, decide_eq_true_iff, decide_eq_true_iff]
    omega

/-- There are no facts of a number that was not answered. -/
theorem factsOf_eq_nil (h : NotesCreated cs) {profile : ProfileNumber}
    (hprofile : ∀ q ∈ created cs, q.id ≠ profile) : StoreCall.factsOf profile cs = [] := by
  refine List.filterMap_eq_nil_iff.2 fun c hc => ?_
  have hmem : c ∈ cs := by
    have hmem : c ∈ cs.reverse.takeWhile fun c => !c.deletes profile := List.mem_reverse.1 hc
    exact List.mem_reverse.1 ((List.takeWhile_subset _) hmem)
  cases c with
  | create name => rfl
  | delete n => rfl
  | record n fact =>
    obtain ⟨i, hi⟩ := List.mem_iff_getElem?.1 hmem
    obtain ⟨q, hq, rfl⟩ := h i n fact hi
    have hcreated : q ∈ created cs := by
      rw [← List.take_append_drop i cs]
      exact mem_created_append hq _
    exact if_neg fun hn => hprofile q hcreated (ProfileNumber.toInt_inj.1 hn.1)

/-! ### New profiles -/

/-- **A new profile has no past.** After any calls of an empty store that record facts of
created profiles only, the profiles are listed with increasing names, and they are the live
ones. The numbers of all that were created increase. A name is refused only if a live profile
has it, or if the last number that the store can hold was given out, and then nothing changes. A
profile that is created has a number above all earlier ones, and nothing is known of it. -/
theorem created_profile_has_no_past (cs : List StoreCall) (h : NotesCreated cs) :
    ((run {} cs).listProfiles.Pairwise fun p q => p.name < q.name) ∧
    (∀ p, p ∈ (run {} cs).listProfiles ↔ Live cs p) ∧
    ((created cs).map fun p => p.id.toInt).Pairwise (· < ·) ∧
    (∀ name fault, ((run {} cs).call (.create name)).2 = .refused fault →
      (fault = .nameTaken ∧ (∃ p, Live cs p ∧ p.name = name) ∨
        fault = .full ∧ ∃ p ∈ created cs, p.id.toInt = 9223372036854775807) ∧
      run {} (cs ++ [.create name]) = run {} cs) ∧
    ∀ name p, ((run {} cs).call (.create name)).2 = .created p →
      p.name = name ∧ (∀ q ∈ created cs, q.id.toInt < p.id.toInt) ∧
      (run {} (cs ++ [.create name])).view p.id = .empty := by
  obtain ⟨hnames, hincreasing, hle, hlastId⟩ := numbered_run cs
  refine ⟨Text.increasing_sortedBy hnames, fun p => ?_, hincreasing, ?_, ?_⟩
  · rw [← mem_profiles_run]
    exact (Text.perm_sortedBy _ _).mem_iff
  · intro name fault hrefused
    rw [run_concat]
    rcases call_create (run {} cs) name with
      ⟨hfull, hcall⟩ | ⟨⟨p, hp, hname⟩, hcall⟩ | ⟨id, -, -, hcall⟩
    · rw [hcall] at hrefused ⊢
      obtain rfl := StoreAnswer.refused.inj hrefused
      exact ⟨.inr ⟨rfl, exists_created_of_full (numbered_run cs) hfull⟩, rfl⟩
    · rw [hcall] at hrefused ⊢
      obtain rfl := StoreAnswer.refused.inj hrefused
      exact ⟨.inl ⟨rfl, p, (mem_profiles_run cs p).1 hp, hname⟩, rfl⟩
    · rw [hcall] at hrefused
      cases hrefused
  · intro name p hcreated
    rcases call_create (run {} cs) name with ⟨-, hcall⟩ | ⟨-, hcall⟩ | ⟨id, hid, -, hcall⟩
    · rw [hcall] at hcreated
      cases hcreated
    · rw [hcall] at hcreated
      cases hcreated
    · rw [hcall] at hcreated
      obtain rfl := StoreAnswer.created.inj hcreated
      have hlt : ∀ q ∈ created cs, q.id.toInt < id.toInt := by
        intro q hq
        have hbound := hle q hq
        omega
      refine ⟨rfl, hlt, ?_⟩
      have hfacts : StoreCall.factsOf id cs = [] := by
        refine factsOf_eq_nil h fun q hq heq => ?_
        exact absurd (congrArg ProfileNumber.toInt heq) (Int.ne_of_lt (hlt q hq))
      simp [view_run, StoreCall.factsOf_concat, StoreCall.deletes, StoreCall.factOf?, hfacts]

/-- Bob is created, refused a second time, has used a tool, and is deleted; a late fact still
goes under his number. -/
def lateFact : List StoreCall :=
  [.create "bob", .create "bob", .record 1 (.tool "gpu" "nvidia-smi"), .delete 1,
    .record 1 (.tier "gpu" 3)]

/-- A second Bob gets the next number, and what is known of the first one is not known of
him. -/
theorem second_bob_has_no_past :
    NotesCreated lateFact ∧ ((run {} lateFact).call (.create "bob")).2 = .created ⟨2, "bob"⟩ ∧
    ((run {} lateFact).view 1).tiers "gpu" = some 3 ∧
    (run {} (lateFact ++ [.create "bob"])).view 2 = .empty := by
  have hnotes : NotesCreated lateFact := by
    intro i n fact hi
    have hlt : i < 5 := (List.getElem?_eq_some_iff.1 hi).1
    interval_cases i <;> cases hi <;> decide
  have hcreated : ((run {} lateFact).call (.create "bob")).2 = .created ⟨2, "bob"⟩ := by decide
  have hpast := (created_profile_has_no_past lateFact hnotes).2.2.2.2 "bob" ⟨2, "bob"⟩ hcreated
  exact ⟨hnotes, hcreated, by decide, hpast.2.2⟩

end Store

end ClusterTutor
