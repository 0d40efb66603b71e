import ClusterTutor.Program
import ClusterTutor.Proofs.Service.Calls
import ClusterTutor.Proofs.Tier.Profiles

/-!
# Tools are recorded as they are used

A tool is recorded at the end of a line that executes it, under each family that it belongs to,
and the record stays until the profile is deleted. Seen from the log, the tools recorded of a
family are therefore those of the family that some line of the profile has executed, no more and
no less (`ClusterTutor.Service.usedTools_exact`).

Records are kept under the number of a profile, and a session goes on after its profile is
deleted. That a new profile does not inherit the tools of such a session rests on its number
again: as long as a number was not given out, there is no session to record under it
(`ClusterTutor.Service.RemembersTools`).
-/

namespace ClusterTutor

namespace Tutor

/-- The tools of a family that a profile is recorded to have used. -/
def usedTools (t : Tutor) (profile : ProfileNumber) (family : String) : NameSet :=
  (t.store.tools.get? (profile, family)).getD .empty

/-- Marking a tool records it under the families that it belongs to. -/
theorem mem_usedTools_markToolUsed (t : Tutor) (profile : ProfileNumber) (tool family name : String) :
    name ∈ (t.markToolUsed profile tool).usedTools profile family ↔
      family ∈ t.families.ofTool tool ∧ name = tool ∨ name ∈ t.usedTools profile family := by
  have hmark : t.markToolUsed profile tool =
      { t with store := t.store.notingTool profile (t.families.ofTool tool) tool }.refreshTiers
        profile (t.families.ofTool tool) := rfl
  rw [hmark, usedTools, tools_refreshTiers, mem_tools_notingTool, usedTools]

/-- Marking a tool records nothing for other profiles. -/
theorem tools_markToolUsed_of_ne {profile other : ProfileNumber} (h : profile ≠ other) (t : Tutor)
    (tool family : String) :
    (t.markToolUsed other tool).store.tools.get? (profile, family) =
      t.store.tools.get? (profile, family) :=
  ((t.factStep_call other (.tool tool)).sameFactsOf h).tools family

end Tutor

/-- **Nothing is known of numbers that were not given out**: no profile has one, and no tool is
recorded under one. -/
structure Store.KnowsNothingAhead (s : Store) : Prop where
  /-- The profiles have numbers that were given out. -/
  profiles : ∀ p ∈ s.profiles, p.id ≤ s.lastId
  /-- Tools are recorded under such numbers. -/
  tools : ∀ (profile : ProfileNumber) family, s.lastId < profile →
    s.tools.get? (profile, family) = none

namespace Service

variable {v : Service} {c : ServiceCall} {profile : ProfileNumber}

/-- **The tools of a profile are remembered**: while its number is not given out, there are
none, and while the profile is there, they are those that its lines have executed. -/
structure RemembersTools (profile : ProfileNumber) (v : Service) : Prop where
  /-- Nothing is recorded under a number ahead. -/
  ahead : v.tutor.store.lastId < profile →
    ∀ family, v.tutor.store.tools.get? (profile, family) = none
  /-- Of a profile that is there, what its lines have executed is recorded. -/
  exact : profile ∈ v.tutor.store.profiles.map Profile.id → ∀ family name,
    (name ∈ v.tutor.usedTools profile family ↔
      family ∈ v.tutor.families.ofTool name ∧ v.HasExecuted profile name)

/-- No line of a number ahead was executed. -/
theorem Orderly.not_hasExecuted (h : v.Orderly) (hahead : v.tutor.store.lastId < profile)
    (name : String) : ¬v.HasExecuted profile name := by
  rintro ⟨e, he, rfl, -⟩
  have hle := h.log e he
  omega

/-- What a call executes is executed in a session, whose number was given out. -/
theorem Orderly.le_of_executed? (h : v.Orderly) {tool : String}
    (hc : v.executed? c = some (profile, tool)) : profile ≤ v.tutor.store.lastId := by
  unfold executed? at hc
  split at hc
  · obtain ⟨s, hs, hsome⟩ := Option.bind_eq_some_iff.1 hc
    split at hsome
    · obtain ⟨rfl, -⟩ := Prod.ext_iff.1 (Option.some.inj hsome)
      exact h.sessions s (List.mem_of_getElem? hs)
    · cases hsome
  · cases hc

/-- A call that executes nothing for a profile keeps its tools remembered, if it leaves their
records alone. -/
theorem RemembersTools.of_rows (h : v.RemembersTools profile)
    (hlast : v.tutor.store.lastId ≤ (v.call c).tutor.store.lastId)
    (hprofiles : profile ∈ (v.call c).tutor.store.profiles.map Profile.id →
      profile ∈ v.tutor.store.profiles.map Profile.id)
    (hrows : ∀ family, (v.call c).tutor.store.tools.get? (profile, family) =
      v.tutor.store.tools.get? (profile, family))
    (hnone : ∀ name, v.executed? c ≠ some (profile, name)) :
    (v.call c).RemembersTools profile where
  ahead hahead family := by
    rw [hrows]
    exact h.ahead (by omega) family
  exact hmem family name := by
    have hused : (v.call c).tutor.usedTools profile family = v.tutor.usedTools profile family := by
      rw [Tutor.usedTools, hrows, Tutor.usedTools]
    rw [hused, h.exact (hprofiles hmem), hasExecuted_call, (tutorStep_call v c).families_eq,
      or_iff_left (hnone name)]

/-- **A line that executes a tool for the profile** records the tool under its families. -/
theorem RemembersTools.executes (h : v.RemembersTools profile) (hv : v.Orderly) {tool : String}
    (hc : v.executed? c = some (profile, tool))
    (htutor : (v.call c).tutor = v.tutor.markToolUsed profile tool) :
    (v.call c).RemembersTools profile where
  ahead hahead family := by
    rw [htutor, (profiles_markToolUsed _ _ _).2] at hahead
    have hle := hv.le_of_executed? hc
    omega
  exact hmem family name := by
    rw [htutor, (profiles_markToolUsed _ _ _).1] at hmem
    rw [htutor, Tutor.mem_usedTools_markToolUsed, h.exact hmem, hasExecuted_call, hc]
    have hfamilies : (v.tutor.markToolUsed profile tool).families = v.tutor.families := rfl
    rw [hfamilies, Option.some.injEq, Prod.mk.injEq]
    constructor
    · rintro (⟨hfamily, rfl⟩ | ⟨hfamily, hexecuted⟩)
      · exact ⟨hfamily, .inr ⟨rfl, rfl⟩⟩
      · exact ⟨hfamily, .inl hexecuted⟩
    · rintro ⟨hfamily, hexecuted | ⟨-, rfl⟩⟩
      · exact .inr ⟨hfamily, hexecuted⟩
      · exact .inl ⟨hfamily, rfl⟩

/-- **A tool that is marked for another profile** is not recorded for this one. -/
theorem RemembersTools.marks_other (h : v.RemembersTools profile) {other : ProfileNumber} {tool : String}
    (hne : profile ≠ other) (htutor : (v.call c).tutor = v.tutor.markToolUsed other tool)
    (hnone : ∀ name, v.executed? c ≠ some (profile, name)) :
    (v.call c).RemembersTools profile := by
  obtain ⟨hprofiles, hlast⟩ := profiles_markToolUsed v.tutor other tool
  refine h.of_rows ?_ (fun hmem => ?_) (fun family => ?_) hnone
  · rw [htutor, hlast]
  · rwa [htutor, hprofiles] at hmem
  · rw [htutor, Tutor.tools_markToolUsed_of_ne hne]

/-- **A profile that is created** has used no tools, and its lines have executed none. -/
theorem RemembersTools.creates (h : v.RemembersTools profile) (hv : v.Orderly) {p : Profile}
    (hid : p.id = v.tutor.store.lastId + 1)
    (htutor : (v.call c).tutor = { v.tutor with store := { v.tutor.store with
      profiles := v.tutor.store.profiles ++ [p]
      lastId := p.id } })
    (hnone : v.executed? c = none) : (v.call c).RemembersTools profile where
  ahead hahead family := by
    rw [htutor] at hahead ⊢
    exact h.ahead (by simp only at hahead; omega) family
  exact hmem family name := by
    rw [hasExecuted_call, hnone, htutor]
    rw [htutor] at hmem
    simp only [List.map_append, List.mem_append, List.map_cons, List.map_nil,
      List.mem_singleton] at hmem
    simp only [reduceCtorEq, or_false]
    rcases hmem with hold | rfl
    · exact h.exact hold family name
    · have hahead : v.tutor.store.lastId < p.id := by omega
      have hnothing : v.tutor.store.tools.get? (p.id, family) = none := h.ahead hahead family
      have hlines := hv.not_hasExecuted hahead name
      simp [Tutor.usedTools, hnothing, hlines]

/-- **A profile that is deleted** loses its records, and the others keep theirs. -/
theorem RemembersTools.deletes (h : v.RemembersTools profile) (other : ProfileNumber) :
    (v.call (.delete other)).RemembersTools profile where
  ahead hahead family := by
    have hrow : (v.call (.delete other)).tutor.store.tools.get? (profile, family) =
        if profile = other then none else v.tutor.store.tools.get? (profile, family) :=
      Table.get?_deleteProfile _ _ _ _
    rw [hrow, h.ahead hahead family, ite_self]
  exact hmem family name := by
    obtain ⟨p, hp, rfl⟩ := List.mem_map.1 hmem
    obtain ⟨hold, hkept⟩ := List.mem_filter.1 hp
    have hne : p.id ≠ other := by simpa using hkept
    have hrow : (v.call (.delete other)).tutor.store.tools.get? (p.id, family) =
        v.tutor.store.tools.get? (p.id, family) :=
      (Table.get?_deleteProfile _ _ _ _).trans (if_neg hne)
    have hused : (v.call (.delete other)).tutor.usedTools p.id family =
        v.tutor.usedTools p.id family := by
      rw [Tutor.usedTools, hrow, Tutor.usedTools]
    rw [hused, h.exact (List.mem_map_of_mem hold), hasExecuted_call,
      (tutorStep_call v _).families_eq, or_iff_left (by simp [executed?])]

/-- **Every call keeps the tools of a profile remembered**, unless it notes a use without a
line. -/
theorem RemembersTools.call (h : v.RemembersTools profile) (hv : v.Orderly)
    (hc : ∀ tool, c ≠ .learner profile (.tool tool)) : (v.call c).RemembersTools profile := by
  have hstep := tutorStep_call v c
  generalize htutor : (v.call c).tutor = t' at hstep
  cases hstep with
  | @executes _ other tool hexec =>
    by_cases hprofile : profile = other
    · subst hprofile
      exact h.executes hv hexec htutor
    · refine h.marks_other hprofile htutor fun name hname => ?_
      rw [hexec] at hname
      exact hprofile (Prod.ext_iff.1 (Option.some.inj hname)).1.symm
  | @notes other tool =>
    have hprofile : profile ≠ other := by
      rintro rfl
      exact hc tool rfl
    exact h.marks_other hprofile htutor fun name hname => by simp [executed?] at hname
  | creates hid => exact h.creates hv hid htutor rfl
  | @deletes other => exact h.deletes other
  | keeps hnone hsame =>
    subst htutor
    refine h.of_rows hsame.lastId.ge (fun hmem => ?_) (fun family => ?_) fun name => ?_
    · rwa [hsame.profiles] at hmem
    · rw [hsame.tools]
    · rw [hnone]
      simp

/-- A service at its beginning. -/
def opened (t : Tutor) : Service := { tutor := t }

theorem orderly_opened {t : Tutor} (h : t.store.KnowsNothingAhead) : (opened t).Orderly where
  profiles := h.profiles
  sessions _ hs := by cases hs
  log _ he := by cases he

/-- A number that is ahead at the beginning has no past. -/
theorem remembersTools_opened {t : Tutor} (h : t.store.KnowsNothingAhead)
    (hnew : t.store.lastId < profile) : (opened t).RemembersTools profile where
  ahead hahead family := h.tools profile family hahead
  exact hmem := by
    obtain ⟨p, hp, rfl⟩ := List.mem_map.1 hmem
    have hle := h.profiles p hp
    omega

/-- **The tools of a new profile are remembered** through all calls. -/
theorem remembersTools_run {t : Tutor} (h : t.store.KnowsNothingAhead)
    (hnew : t.store.lastId < profile) {cs : List ServiceCall}
    (hcs : ∀ tool, ServiceCall.learner profile (.tool tool) ∉ cs) :
    ((opened t).run cs).RemembersTools profile := by
  induction cs using List.reverseRecOn with
  | nil => exact remembersTools_opened h hnew
  | append_singleton cs c ih =>
    rw [run_concat]
    refine (ih fun tool hmem => hcs tool (List.mem_append_left _ hmem)).call
      ((orderly_opened h).run cs) fun tool heq => ?_
    exact hcs tool (List.mem_append_right _ (List.mem_singleton.2 heq.symm))

/-- **Tools are recorded exactly as they are used.** A service starts with families that were
read, and with a store that knows nothing of numbers that were not given out. After any calls,
for every profile that was created in them and is still there:

* under a family are recorded exactly those of its tools that some line of the profile has
  executed, with or without `sudo`, in whatever session, and whether or not it was undone;
* under anything that is no family nothing is recorded.

That the use of a tool is noted without any line is left out for the profile in question. -/
theorem usedTools_exact {v : Value} {t : Tutor} (hread : Families.ofValue v = .ok t.families)
    (hstore : t.store.KnowsNothingAhead) (cs : List ServiceCall) {p : Profile}
    (hnew : t.store.lastId < p.id) (hlive : p ∈ ((opened t).run cs).tutor.store.profiles)
    (hlines : ∀ tool, ServiceCall.learner p.id (.tool tool) ∉ cs) :
    let after := (opened t).run cs
    (∀ id f, t.families.get? id = some f → ∀ tool,
      tool ∈ after.tutor.usedTools p.id id ↔
        tool ∈ f.toolNames ∧ after.HasExecuted p.id tool) ∧
    ∀ id, t.families.get? id = none → ∀ tool, tool ∉ after.tutor.usedTools p.id id := by
  intro after
  have hkeyed := Families.keyed_of_ofValue hread
  have hfamilies : after.tutor.families = t.families := families_run (opened t) cs
  have hexact : ∀ id tool, tool ∈ after.tutor.usedTools p.id id ↔
      (∃ f, t.families.get? id = some f ∧ tool ∈ f.toolNames) ∧
        after.HasExecuted p.id tool := by
    intro id tool
    rw [(remembersTools_run hstore hnew hlines).exact (List.mem_map_of_mem hlive), hfamilies,
      hkeyed.mem_ofTool]
  refine ⟨fun id f hf tool => ?_, fun id hid tool hmem => ?_⟩
  · rw [hexact, hf]
    simp
  · obtain ⟨⟨f, hf, -⟩, -⟩ := (hexact id tool).1 hmem
    rw [hid] at hf
    cases hf

/-- A family of two tools. -/
def gpuFamily : Family where
  id := "gpu"
  name := "GPU"
  tools := [{ name := "nvidia-smi" }, { name := "dcgmi" }]

/-- A family of one of these tools. -/
def healthFamily : Family where
  id := "health"
  name := "Health"
  tools := [{ name := "dcgmi" }]

/-- A tutor with two families that share a tool. -/
def twoFamilies : Tutor :=
  { Tutor.standard with
    families := .ofList [("gpu", gpuFamily), ("health", healthFamily)] }

/-- A learner is created, runs the shared tool and undoes it, and is denied the other one. -/
def sharedToolCalls : List ServiceCall :=
  .create "ada" :: [.open 1 (.whole 0), .session 0 (.line "sudo dcgmi diag -r 3"),
    .session 0 .undo, .session 0 (.line "nvidia-smi -pm 1")]

/-- The shared tool is recorded for both families, and the denied one for none. -/
theorem shared_tool_recorded_twice :
    (∀ tool, ServiceCall.learner 1 (.tool tool) ∉ sharedToolCalls) ∧
      ⟨1, "ada"⟩ ∈ ((opened twoFamilies).run sharedToolCalls).tutor.store.profiles ∧
      "dcgmi" ∈ ((opened twoFamilies).run sharedToolCalls).tutor.usedTools 1 "gpu" ∧
      "dcgmi" ∈ ((opened twoFamilies).run sharedToolCalls).tutor.usedTools 1 "health" ∧
      "nvidia-smi" ∉ ((opened twoFamilies).run sharedToolCalls).tutor.usedTools 1 "gpu" := by
  have hread : Families.ofValue (.object [("families", .array [
      .object [("id", .string "gpu"), ("name", .string "GPU"), ("tools", .array [
        .object [("name", .string "nvidia-smi")], .object [("name", .string "dcgmi")]])],
      .object [("id", .string "health"), ("name", .string "Health"), ("tools", .array [
        .object [("name", .string "dcgmi")]])]])]) = .ok twoFamilies.families := rfl
  have hstore : twoFamilies.store.KnowsNothingAhead :=
    ⟨fun _ hp => absurd hp List.not_mem_nil, fun _ _ _ => rfl⟩
  have hlines : ∀ tool, ServiceCall.learner 1 (.tool tool) ∉ sharedToolCalls := by
    simp [sharedToolCalls]
  have hlive : (⟨1, "ada"⟩ : Profile) ∈
      ((opened twoFamilies).run sharedToolCalls).tutor.store.profiles := by
    rw [sharedToolCalls, run_cons]
    exact mem_profiles_run (by decide) (by simp)
  have hran : ((opened twoFamilies).run sharedToolCalls).HasExecuted 1 "dcgmi" := by
    decide +kernel
  have hdenied : ¬((opened twoFamilies).run sharedToolCalls).HasExecuted 1 "nvidia-smi" := by
    decide +kernel
  obtain ⟨hexact, -⟩ := usedTools_exact hread hstore sharedToolCalls (by decide) hlive hlines
  have hgpu := hexact "gpu" gpuFamily rfl
  have hhealth := hexact "health" healthFamily rfl
  exact ⟨hlines, hlive, (hgpu "dcgmi").2 ⟨by decide, hran⟩, (hhealth "dcgmi").2 ⟨by decide, hran⟩,
    fun hmem => hdenied ((hgpu "nvidia-smi").1 hmem).2⟩

end Service

end ClusterTutor
