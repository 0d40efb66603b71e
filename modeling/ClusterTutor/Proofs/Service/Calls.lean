import ClusterTutor.Proofs.Session.Rows

/-!
# A service and its sessions

A service is a tutor with the sessions that were opened with it. Profiles come and go, any
number of sessions of any profiles are open at a time, and each call of a session meets the
tutor as all the calls before have left it. Beside the program, the service keeps a log of the
lines that were typed, each with the tutor and the session of its moment.

| call | tutor | sessions | log |
|---|---|---|---|
| create, delete | profiles | – | – |
| open | – | one more | – |
| a line | its tool is marked as used, if it executes one | the session | the line |
| undoing, a hint, starting a lab | – | the session | – |
| going on | steps, gates, tiers, reviews | the session | – |
| a fact of a learner | that fact, tiers | – | – |

What a call can do to the tutor is said once (`ClusterTutor.Service.TutorStep`). A session stays
with its profile when the profile is deleted; but its number is one that was given out, as all
numbers are that occur in a service (`ClusterTutor.Service.Orderly`).
-/

namespace ClusterTutor

/-- A line that was typed, with the tutor and the session of the moment. -/
structure LoggedLine where
  /-- The tutor before the line. -/
  tutor : Tutor
  /-- The session before the line. -/
  session : Session
  /-- The line. -/
  text : String

/-- **A logged line has executed a tool**, with or without `sudo`. -/
def LoggedLine.Executes (e : LoggedLine) (tool : String) : Prop :=
  e.session.executes e.tutor e.text = true ∧ Session.lineCommand e.text = tool

instance (e : LoggedLine) (tool : String) : Decidable (e.Executes tool) :=
  inferInstanceAs (Decidable (_ ∧ _))

/-- A tutor with its open sessions. -/
structure Service where
  /-- The tutor. -/
  tutor : Tutor
  /-- The sessions, in the order in which they were opened. -/
  sessions : List Session := []
  /-- The lines that were typed in them, the oldest first. -/
  log : List LoggedLine := []

/-- A call of a service. -/
inductive ServiceCall where
  /-- Create a profile. -/
  | create (name : String)
  /-- Delete a profile. -/
  | delete (profile : ProfileNumber)
  /-- Open a session of a profile. -/
  | open (profile : ProfileNumber) (clock : Magnitude)
  /-- Call one of the sessions. -/
  | session (index : Nat) (call : SessionCall)
  /-- Note a fact of a learner. -/
  | learner (profile : ProfileNumber) (call : LearnerCall)

/-- The tutor after a call of a session. -/
def Session.tutorAfter (s : Session) (t : Tutor) : SessionCall → Tutor
  | .line text => (runLine t s text).tutor
  | .advance now clock => (s.advance t now clock).tutor
  | _ => t

/-- What a call of a session adds to the log. -/
def Session.logged (s : Session) (t : Tutor) : SessionCall → List LoggedLine
  | .line text => [⟨t, s, text⟩]
  | _ => []

namespace Service

/-- A service after a call. Nothing comes of a profile that is not created, of a session that
cannot be opened, and of a call of a session that is not there. -/
def call (v : Service) : ServiceCall → Service
  | .create name =>
    match v.tutor.createProfile name with
    | .ok (tutor, _) => { v with tutor }
    | .error _ => v
  | .delete profile => { v with tutor := (v.tutor.deleteProfile profile).1 }
  | .open profile clock =>
    match Session.open? v.tutor profile clock with
    | some s => { v with sessions := v.sessions ++ [s] }
    | none => v
  | .session n c =>
    match v.sessions[n]? with
    | some s =>
      { tutor := s.tutorAfter v.tutor c
        sessions := v.sessions.set n (s.call v.tutor c)
        log := v.log ++ s.logged v.tutor c }
    | none => v
  | .learner profile c => { v with tutor := v.tutor.call profile c }

/-- A service after several calls. -/
def run (v : Service) (cs : List ServiceCall) : Service :=
  cs.foldl call v

@[simp] theorem run_nil (v : Service) : v.run [] = v := rfl

theorem run_cons (v : Service) (c : ServiceCall) (cs : List ServiceCall) :
    v.run (c :: cs) = (v.call c).run cs := rfl

@[simp] theorem run_concat (v : Service) (cs : List ServiceCall) (c : ServiceCall) :
    v.run (cs ++ [c]) = (v.run cs).call c := by
  simp [run]

/-- The tool that a call executes in a session, with the profile of the session. -/
def executed? (v : Service) : ServiceCall → Option (ProfileNumber × String)
  | .session n (.line text) => v.sessions[n]?.bind fun s =>
    if s.executes v.tutor text then some (s.profile, Session.lineCommand text) else none
  | _ => none

/-- Whether a tool has been executed by a line of a profile. -/
def HasExecuted (v : Service) (profile : ProfileNumber) (tool : String) : Prop :=
  ∃ e ∈ v.log, e.session.profile = profile ∧ e.Executes tool

instance (v : Service) (profile : ProfileNumber) (tool : String) :
    Decidable (v.HasExecuted profile tool) :=
  inferInstanceAs (Decidable (∃ e ∈ v.log, _))

end Service

/-! ### What calls of sessions and facts of learners do to the tutor -/

namespace Tutor

/-- A tutor with other facts than tools, and with the same profiles. -/
structure SameTools (t t' : Tutor) : Prop where
  /-- The families are the same. -/
  families : t'.families = t.families
  /-- The profiles are the same. -/
  profiles : t'.store.profiles = t.store.profiles
  /-- The last number is the same. -/
  lastId : t'.store.lastId = t.store.lastId
  /-- The tools used are the same. -/
  tools : t'.store.tools = t.store.tools

theorem SameTools.refl (t : Tutor) : SameTools t t := ⟨rfl, rfl, rfl, rfl⟩

theorem SameTools.trans {t t' t'' : Tutor} (h : SameTools t t') (h' : SameTools t' t'') :
    SameTools t t'' where
  families := h'.families.trans h.families
  profiles := h'.profiles.trans h.profiles
  lastId := h'.lastId.trans h.lastId
  tools := h'.tools.trans h.tools

theorem sameTools_refreshTiers (t : Tutor) (profile : ProfileNumber) (families : List String) :
    SameTools t (t.refreshTiers profile families) := by
  obtain ⟨tiers, htiers⟩ := t.exists_refreshTiers profile families
  rw [htiers]
  exact ⟨rfl, rfl, rfl, rfl⟩

theorem sameTools_withReviews (t : Tutor) (reviews : Table String ReviewSchedule) :
    SameTools t (t.withReviews reviews) := ⟨rfl, rfl, rfl, rfl⟩

/-- A fact that is no use of a tool leaves the tools alone. -/
theorem sameTools_call (t : Tutor) (profile : ProfileNumber) {c : LearnerCall}
    (h : ∀ name, c.uses name = false) : SameTools t (t.call profile c) := by
  have hstep := t.factStep_call profile c
  generalize t.call profile c = t' at hstep ⊢
  cases hstep with
  | @tool name => simp [LearnerCall.uses] at h
  | @quiz family score _ _ =>
    have hnoted : SameTools t { t with store := t.store.notingQuiz profile family score } :=
      ⟨rfl, rfl, rfl, rfl⟩
    exact hnoted.trans (sameTools_refreshTiers _ profile [family])
  | @gate _ g reviews _ =>
    have hnoted : SameTools t { t with store := t.store.notingGate profile g } :=
      ⟨rfl, rfl, rfl, rfl⟩
    exact (hnoted.trans (sameTools_refreshTiers _ profile [g.family])).trans
      (sameTools_withReviews _ reviews)
  | idle _ _ _ => exact sameTools_withReviews t _

end Tutor

namespace Session

/-- Going on leaves the tools alone. -/
theorem sameTools_advance (s : Session) (t : Tutor) (now : Instant) (clock : Magnitude) :
    Tutor.SameTools t (s.advance t now clock).tutor := by
  have hrun := advanceRun_advance s t now clock
  generalize s.advance t now clock = a at hrun ⊢
  cases hrun with
  | stays _ => exact .refl t
  | goesOn _ _ _ _ => exact ⟨rfl, rfl, rfl, rfl⟩
  | @completes lab step _ _ _ _ =>
    obtain ⟨gates, tiers, reviews, hcomplete, -, -⟩ :=
      (s.notingPass t lab step).exists_completeLab now s.profile lab
    rw [hcomplete]
    exact ⟨rfl, rfl, rfl, rfl⟩

/-- A session stays with its profile. -/
theorem profile_call (s : Session) (t : Tutor) (c : SessionCall) :
    (s.call t c).profile = s.profile := by
  cases c with
  | line text => exact (of_place_eq (effects_runLine t s text).1).1
  | undo => exact (of_place_eq s.place_undo.1).1
  | advance now clock =>
    have hrun := advanceRun_advance s t now clock
    simp only [call]
    generalize s.advance t now clock = a at hrun ⊢
    cases hrun with
    | stays _ => rfl
    | goesOn _ _ _ _ => rfl
    | completes _ _ _ _ => rfl
  | revealHint clock =>
    simp only [call]
    split
    · rename_i hreveal
      exact (of_place_eq (place_revealHint hreveal)).1
    · rfl
  | startLab lab clock => rfl

end Session

/-! ### What a call can do to the tutor -/

namespace Service

variable {v : Service} {c : ServiceCall} {t' : Tutor}

/-- **What a call can do to the tutor**: a tool is marked as used, or a profile is created or
deleted, or the tools and profiles stay as they are. -/
inductive TutorStep (v : Service) : ServiceCall → Tutor → Prop
  /-- A line executes a tool. -/
  | executes {c : ServiceCall} {profile : ProfileNumber} {tool : String} :
    v.executed? c = some (profile, tool) → TutorStep v c (v.tutor.markToolUsed profile tool)
  /-- The use of a tool is noted without a line. -/
  | notes {profile : ProfileNumber} {tool : String} :
    TutorStep v (.learner profile (.tool tool)) (v.tutor.markToolUsed profile tool)
  /-- A profile gets the next number. -/
  | creates {name : String} {p : Profile} : p.id = v.tutor.store.lastId + 1 →
    TutorStep v (.create name) { v.tutor with store := { v.tutor.store with
      profiles := v.tutor.store.profiles ++ [p]
      lastId := p.id } }
  /-- A profile is deleted with all that is known of it. -/
  | deletes {profile : ProfileNumber} : TutorStep v (.delete profile) (v.tutor.deleteProfile profile).1
  /-- The tools and profiles stay. -/
  | keeps {c : ServiceCall} {t' : Tutor} : v.executed? c = none → Tutor.SameTools v.tutor t' →
    TutorStep v c t'

/-- A call of a session executes a tool, or leaves the tools alone. -/
theorem tutorStep_session {n : Nat} {s : Session} (hs : v.sessions[n]? = some s) (c : SessionCall) :
    v.TutorStep (.session n c) (s.tutorAfter v.tutor c) := by
  cases c with
  | line text =>
    simp only [Session.tutorAfter, (Session.effects_runLine v.tutor s text).2.1]
    split
    · rename_i hexec
      exact .executes (by simp [executed?, hs, hexec])
    · rename_i hno
      exact .keeps (by simp [executed?, hs, hno]) (.refl _)
  | undo => exact .keeps rfl (.refl _)
  | advance now clock => exact .keeps rfl (s.sameTools_advance v.tutor now clock)
  | revealHint clock => exact .keeps rfl (.refl _)
  | startLab lab clock => exact .keeps rfl (.refl _)

/-- **A call does one of the things that a call can do.** -/
theorem tutorStep_call (v : Service) (c : ServiceCall) : v.TutorStep c (v.call c).tutor := by
  cases c with
  | create name =>
    simp only [call]
    cases hcreate : v.tutor.createProfile name with
    | error fault => exact .keeps rfl (.refl _)
    | ok r =>
      obtain ⟨⟨store, p⟩, hstore, rfl⟩ := map_eq_ok.1 hcreate
      obtain ⟨id, hid, -, hr⟩ := Store.createProfile_eq_ok hstore
      obtain ⟨rfl, rfl⟩ := Prod.ext_iff.1 hr
      exact .creates hid
  | delete profile => exact .deletes
  | «open» profile clock =>
    simp only [call]
    split
    · exact .keeps rfl (.refl _)
    · exact .keeps rfl (.refl _)
  | session n c =>
    simp only [call]
    cases hs : v.sessions[n]? with
    | some s => exact tutorStep_session hs c
    | none => exact .keeps (by cases c <;> simp [executed?, hs]) (.refl _)
  | learner profile c =>
    have hkeeps : (∀ name, c.uses name = false) →
        v.TutorStep (.learner profile c) (v.tutor.call profile c) :=
      fun h => .keeps rfl (v.tutor.sameTools_call profile h)
    cases c with
    | tool name => exact .notes
    | _ => exact hkeeps fun _ => rfl

/-- No call changes the families. -/
theorem TutorStep.families_eq (h : v.TutorStep c t') : t'.families = v.tutor.families := by
  cases h with
  | keeps _ hsame => exact hsame.families
  | _ => rfl

theorem families_run (v : Service) (cs : List ServiceCall) :
    (v.run cs).tutor.families = v.tutor.families := by
  induction cs using List.reverseRecOn with
  | nil => rfl
  | append_singleton cs c ih =>
    rw [run_concat]
    exact (tutorStep_call _ c).families_eq.trans ih

/-- Marking a tool creates and deletes no profiles. -/
theorem profiles_markToolUsed (t : Tutor) (profile : ProfileNumber) (tool : String) :
    (t.markToolUsed profile tool).store.profiles = t.store.profiles ∧
      (t.markToolUsed profile tool).store.lastId = t.store.lastId := by
  obtain ⟨tools, tiers, hmark⟩ := t.exists_markToolUsed profile tool
  rw [hmark]
  exact ⟨rfl, rfl⟩

/-- **A call adds at most one profile**, and a new one has the next number. -/
theorem TutorStep.profiles_cases (h : v.TutorStep c t') :
    (t'.store.lastId = v.tutor.store.lastId ∧
      ∀ p ∈ t'.store.profiles, p ∈ v.tutor.store.profiles) ∨
    (t'.store.lastId = v.tutor.store.lastId + 1 ∧ ∀ p ∈ t'.store.profiles,
      p ∈ v.tutor.store.profiles ∨ p.id = v.tutor.store.lastId + 1) := by
  cases h with
  | executes _ =>
    obtain ⟨hprofiles, hlast⟩ := profiles_markToolUsed v.tutor _ _
    exact .inl ⟨hlast, fun p hp => hprofiles ▸ hp⟩
  | notes =>
    obtain ⟨hprofiles, hlast⟩ := profiles_markToolUsed v.tutor _ _
    exact .inl ⟨hlast, fun p hp => hprofiles ▸ hp⟩
  | creates hid =>
    refine .inr ⟨hid, fun q hq => ?_⟩
    rcases List.mem_append.1 hq with hold | hnew
    · exact .inl hold
    · rw [List.mem_singleton.1 hnew]
      exact .inr hid
  | deletes => exact .inl ⟨rfl, fun p hp => List.mem_of_mem_filter hp⟩
  | keeps _ hsame => exact .inl ⟨hsame.lastId, fun p hp => hsame.profiles ▸ hp⟩

/-- A profile stays until it is deleted. -/
theorem TutorStep.mem_profiles (h : v.TutorStep c t') {p : Profile}
    (hp : p ∈ v.tutor.store.profiles) (hc : c ≠ .delete p.id) : p ∈ t'.store.profiles := by
  cases h with
  | executes _ => rwa [(profiles_markToolUsed v.tutor _ _).1]
  | notes => rwa [(profiles_markToolUsed v.tutor _ _).1]
  | creates _ => exact List.mem_append_left _ hp
  | @deletes profile =>
    have hne : p.id ≠ profile := by
      rintro rfl
      exact hc rfl
    exact List.mem_filter.2 ⟨hp, by simpa using hne⟩
  | keeps _ hsame => rwa [hsame.profiles]

theorem mem_profiles_run {p : Profile} (hp : p ∈ v.tutor.store.profiles) {cs : List ServiceCall}
    (hcs : .delete p.id ∉ cs) : p ∈ (v.run cs).tutor.store.profiles := by
  induction cs using List.reverseRecOn with
  | nil => exact hp
  | append_singleton cs c ih =>
    rw [List.mem_append, List.mem_singleton, not_or] at hcs
    rw [run_concat]
    exact (tutorStep_call _ c).mem_profiles (ih hcs.1) fun hc => hcs.2 hc.symm

/-- **All numbers that occur were given out**: those of the profiles, of the sessions, and of
the lines in the log. -/
structure Orderly (v : Service) : Prop where
  /-- The numbers of the profiles were given out. -/
  profiles : ∀ p ∈ v.tutor.store.profiles, p.id ≤ v.tutor.store.lastId
  /-- The numbers of the sessions were given out. -/
  sessions : ∀ s ∈ v.sessions, s.profile ≤ v.tutor.store.lastId
  /-- The numbers in the log were given out. -/
  log : ∀ e ∈ v.log, e.session.profile ≤ v.tutor.store.lastId

/-- A session is opened for a profile that is there. -/
theorem Orderly.le_of_open? (h : v.Orderly) {profile : ProfileNumber} {clock : Magnitude} {s : Session}
    (hs : Session.open? v.tutor profile clock = some s) :
    s.profile ≤ v.tutor.store.lastId := by
  obtain ⟨p, hp, rfl⟩ := Option.map_eq_some_iff.1 hs
  have hid : p.id = profile := by simpa using List.find?_some hp
  rw [← hid]
  exact h.profiles p (List.mem_of_find?_eq_some hp)

/-- A call adds sessions and lines of numbers that were given out only. -/
theorem Orderly.le_lastId (h : v.Orderly) (c : ServiceCall) :
    (∀ s ∈ (v.call c).sessions, s.profile ≤ v.tutor.store.lastId) ∧
      ∀ e ∈ (v.call c).log, e.session.profile ≤ v.tutor.store.lastId := by
  cases c with
  | create name =>
    simp only [call]
    split
    · exact ⟨h.sessions, h.log⟩
    · exact ⟨h.sessions, h.log⟩
  | delete profile => exact ⟨h.sessions, h.log⟩
  | «open» profile clock =>
    simp only [call]
    split
    · rename_i s hs
      exact ⟨List.forall_mem_append.2 ⟨h.sessions, List.forall_mem_singleton.2 (h.le_of_open? hs)⟩,
        h.log⟩
    · exact ⟨h.sessions, h.log⟩
  | session n c =>
    simp only [call]
    split
    · rename_i s hs
      have hle := h.sessions s (List.mem_of_getElem? hs)
      refine ⟨fun s' hs' => ?_, List.forall_mem_append.2 ⟨h.log, fun e he => ?_⟩⟩
      · rcases List.mem_or_eq_of_mem_set hs' with hold | rfl
        · exact h.sessions s' hold
        · rwa [Session.profile_call]
      · cases c with
        | line text => rwa [List.mem_singleton.1 he]
        | _ => cases he
    · exact ⟨h.sessions, h.log⟩
  | learner profile c => exact ⟨h.sessions, h.log⟩

/-- **All numbers that occur stay such as were given out.** -/
theorem Orderly.call (h : v.Orderly) (c : ServiceCall) : (v.call c).Orderly := by
  obtain ⟨hsessions, hlog⟩ := h.le_lastId c
  rcases (tutorStep_call v c).profiles_cases with ⟨hlast, hold⟩ | ⟨hlast, hnew⟩
  · exact ⟨fun p hp => hlast ▸ h.profiles p (hold p hp), fun s hs => hlast ▸ hsessions s hs,
      fun e he => hlast ▸ hlog e he⟩
  · refine ⟨fun p hp => ?_, fun s hs => ?_, fun e he => ?_⟩
    · rcases hnew p hp with hmem | hid
      · have hle := h.profiles p hmem
        omega
      · omega
    · have hle := hsessions s hs
      omega
    · have hle := hlog e he
      omega

theorem Orderly.run (h : v.Orderly) (cs : List ServiceCall) : (v.run cs).Orderly := by
  induction cs using List.reverseRecOn with
  | nil => exact h
  | append_singleton cs c ih =>
    rw [run_concat]
    exact ih.call c

/-! ### What a call adds to the log -/

/-- **A tool has been executed by now** if it had been before, or the call executes it. -/
theorem hasExecuted_call (v : Service) (c : ServiceCall) (profile : ProfileNumber) (tool : String) :
    (v.call c).HasExecuted profile tool ↔
      v.HasExecuted profile tool ∨ v.executed? c = some (profile, tool) := by
  cases c with
  | create name =>
    simp only [call, HasExecuted]
    split <;> simp [executed?]
  | delete _ => simp [call, HasExecuted, executed?]
  | «open» _ _ =>
    simp only [call, HasExecuted]
    split <;> simp [executed?]
  | learner _ _ => simp [call, HasExecuted, executed?]
  | session n c =>
    simp only [call, HasExecuted]
    cases hs : v.sessions[n]? with
    | none => cases c <;> simp [executed?, hs]
    | some s =>
      cases c with
      | line text =>
        by_cases hexec : s.executes v.tutor text = true
        · simp [Session.logged, executed?, hs, hexec, LoggedLine.Executes, or_and_right,
            exists_or]
        · simp [Session.logged, executed?, hs, hexec, LoggedLine.Executes, or_and_right,
            exists_or]
      | _ => simp [Session.logged, executed?]

end Service

end ClusterTutor
