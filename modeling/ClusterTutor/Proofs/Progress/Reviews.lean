import ClusterTutor.Proofs.Progress.FreshProfiles

/-!
# The review schedule in closed form

A family is put on the review schedule, and then reviewed again and again. What the store keeps
is computed from what it kept before: a success doubles the interval up to a limit, a failure or a
new start resets it. This module says what is kept from the events alone.

What counts are the events that the store took up, since the profile was last deleted
(`ClusterTutor.Store.reviewsOf`): an event after which the review would be due past the end of the
calendar is refused, and changes nothing. Of these events,

* the successes in a row are those since the last event that was none
  (`ClusterTutor.streak`);
* the interval has been doubled once for each of them, but not for the very first event, which
  starts with the interval of one day whether it is a start, a failure or a success
  (`ClusterTutor.doublings`);
* the review is due that many days after the last event.

That what is computed with one more event is the closed form again
(`ClusterTutor.KeptAfter.next_eq`) is the step of the induction over the calls
(`ClusterTutor.Store.schedule?_run`).
-/

namespace ClusterTutor

/-- A number of days later is that many days of microseconds later, in the calendar. -/
theorem Instant.addDays?_eq_some_iff {t later : Instant} {days : Int} :
    t.addDays? days = some later ↔
      later.micros = t.micros + days * microsPerDay ∧ later.inCalendar = true := by
  rw [addDays?, Option.ite_none_right_eq_some, Option.some.injEq]
  constructor
  · rintro ⟨hin, rfl⟩
    exact ⟨rfl, hin⟩
  · rintro ⟨hmicros, hin⟩
    obtain rfl : later = ⟨t.micros + days * microsPerDay⟩ := by rw [← hmicros]
    exact ⟨hin, rfl⟩

/-! ### Events -/

/-- Whether an event is a successful review. -/
def ReviewEvent.succeeded : ReviewEvent → Bool
  | .reviewed _ success => success
  | .started _ => false

/-- How many successes there were in a row, up to the last event. -/
def streak (es : List ReviewEvent) : Nat :=
  (es.reverse.takeWhile ReviewEvent.succeeded).length

/-- **How often the interval was doubled**: once for each success in a row, but for a success
that is the very first event. -/
def doublings (es : List ReviewEvent) : Nat :=
  if es.all ReviewEvent.succeeded then streak es - 1 else streak es

/-- **The days until the next review**: one day, doubled, up to the limit. -/
def reviewInterval (es : List ReviewEvent) : Nat :=
  min (2 ^ doublings es) maxReviewInterval

section Streaks

variable {es : List ReviewEvent} {e : ReviewEvent}

@[simp] theorem streak_nil : streak [] = 0 := rfl

theorem streak_concat (es : List ReviewEvent) (e : ReviewEvent) :
    streak (es ++ [e]) = if e.succeeded then streak es + 1 else 0 := by
  cases he : e.succeeded <;> simp [streak, he]

/-- Successes from the first event on are all in a row. -/
theorem streak_of_all (h : es.all ReviewEvent.succeeded = true) : streak es = es.length := by
  have hall : es.reverse.takeWhile ReviewEvent.succeeded = es.reverse := by
    refine List.takeWhile_eq_self_iff.2 fun e he => ?_
    exact List.all_eq_true.1 h e (List.mem_reverse.1 he)
  rw [streak, hall, List.length_reverse]

/-- Nothing is doubled at a start or a failure, nor at the very first event. -/
theorem doublings_concat_of_not_succeeded (h : e.succeeded = false) (es : List ReviewEvent) :
    doublings (es ++ [e]) = 0 := by
  simp [doublings, streak_concat, h]

theorem doublings_singleton (e : ReviewEvent) : doublings [e] = 0 := by
  have hone := streak_concat [] e
  rw [List.nil_append, streak_nil] at hone
  cases h : e.succeeded <;> simp [doublings, hone, h]

/-- **A success doubles once more.** -/
theorem doublings_concat_of_succeeded (h : e.succeeded = true) (hes : es ≠ []) :
    doublings (es ++ [e]) = doublings es + 1 := by
  rw [doublings, doublings, streak_concat, if_pos h]
  cases hall : es.all ReviewEvent.succeeded with
  | false => simp [hall]
  | true =>
    -- The first event was a success, so the row is as long as the list.
    have hpos : 0 < streak es := by
      rw [streak_of_all hall]
      exact List.length_pos_iff.2 hes
    simp only [List.all_append, hall, List.all_cons, h, List.all_nil, Bool.and_true, if_true]
    omega

theorem one_le_reviewInterval (es : List ReviewEvent) : 1 ≤ reviewInterval es :=
  le_min (one_le_pow₀ (by decide)) (by decide)

theorem reviewInterval_le (es : List ReviewEvent) : reviewInterval es ≤ maxReviewInterval :=
  min_le_right _ _

theorem reviewInterval_of_doublings_eq_zero (h : doublings es = 0) :
    reviewInterval es = initialReviewInterval := by
  rw [reviewInterval, h]
  decide

/-- Doubling within the limit, and again, is doubling twice within the limit. -/
theorem reviewInterval_of_doublings_eq_succ {es' : List ReviewEvent}
    (h : doublings es' = doublings es + 1) :
    reviewInterval es' = min (reviewInterval es * 2) maxReviewInterval := by
  rw [reviewInterval, reviewInterval, h, pow_succ]
  simp only [maxReviewInterval]
  omega

/-- **A success does not shrink the interval.** -/
theorem reviewInterval_le_concat (h : e.succeeded = true) (hes : es ≠ []) :
    reviewInterval es ≤ reviewInterval (es ++ [e]) := by
  have hlow := one_le_reviewInterval es
  have hhigh := reviewInterval_le es
  rw [reviewInterval_of_doublings_eq_succ (doublings_concat_of_succeeded h hes)]
  exact le_min (by omega) hhigh

end Streaks

/-! ### What is kept -/

/-- **What is kept of a family after some events**: nothing if there were none, and otherwise the
streak, the interval, and that many days after the last event as the day of the next review. -/
inductive KeptAfter (family : String) : List ReviewEvent → Option ReviewSchedule → Prop
  /-- There were no events. -/
  | nothing : KeptAfter family [] none
  /-- There was a last event, and the calendar has the day. -/
  | schedule {es : List ReviewEvent} {e : ReviewEvent} {dueAt : Instant} :
    e.now.addDays? (reviewInterval (es ++ [e])) = some dueAt →
    KeptAfter family (es ++ [e])
      (some ⟨family, dueAt, reviewInterval (es ++ [e]), streak (es ++ [e])⟩)

namespace KeptAfter

variable {family : String} {es : List ReviewEvent} {old : Option ReviewSchedule}

theorem eq_none_iff (h : KeptAfter family es old) : old = none ↔ es = [] := by
  cases h with
  | nothing => exact iff_of_true rfl rfl
  | schedule _ => exact iff_of_false (Option.some_ne_none _) (by simp)

/-- What is kept is what the events say. -/
theorem of_eq_some (h : KeptAfter family es old) {r : ReviewSchedule} (hr : old = some r) :
    r.family = family ∧ r.successes = streak es ∧ r.intervalDays = reviewInterval es ∧
      ∃ e, es.getLast? = some e ∧ e.now.addDays? (reviewInterval es) = some r.dueAt := by
  cases h with
  | nothing => cases hr
  | schedule hday =>
    obtain rfl := Option.some.inj hr
    exact ⟨rfl, rfl, rfl, _, List.getLast?_concat, hday⟩

/-- **One more event**: what is computed from what was kept is the closed form again. -/
theorem next_eq (h : KeptAfter family es old) (e : ReviewEvent) :
    e.next old = (reviewInterval (es ++ [e]), streak (es ++ [e])) := by
  -- A start and a failure begin anew, whatever was kept.
  have hanew : e.succeeded = false →
      (initialReviewInterval, 0) = (reviewInterval (es ++ [e]), streak (es ++ [e])) := by
    intro hfailed
    rw [reviewInterval_of_doublings_eq_zero (doublings_concat_of_not_succeeded hfailed es),
      streak_concat, hfailed, if_neg Bool.false_ne_true]
  cases e with
  | started now => exact hanew rfl
  | reviewed now success =>
    cases success with
    | false => cases old <;> exact hanew rfl
    | true =>
      have hstreak : streak (es ++ [.reviewed now true]) = streak es + 1 := streak_concat es _
      cases hold : old with
      | none =>
        subst hold
        cases h with
        | nothing =>
          rw [hstreak, List.nil_append,
            reviewInterval_of_doublings_eq_zero (doublings_singleton _)]
          rfl
      | some r =>
        have hes : es ≠ [] := fun hnil => by simp [h.eq_none_iff.2 hnil] at hold
        obtain ⟨-, hsuccesses, hinterval, -⟩ := h.of_eq_some hold
        rw [hstreak, reviewInterval_of_doublings_eq_succ
          (doublings_concat_of_succeeded (e := .reviewed now true) rfl hes), ← hinterval,
          ← hsuccesses]
        rfl

/-- An event is merged exactly if the calendar has the day on which the next review is due. -/
theorem mergeReview_eq (h : KeptAfter family es old) (e : ReviewEvent) :
    mergeReview family old e = (e.now.addDays? (reviewInterval (es ++ [e]))).map fun dueAt =>
      ⟨family, dueAt, reviewInterval (es ++ [e]), streak (es ++ [e])⟩ := by
  rw [mergeReview, h.next_eq e]

theorem concat (h : KeptAfter family es old) {e : ReviewEvent} {r : ReviewSchedule}
    (hr : mergeReview family old e = some r) : KeptAfter family (es ++ [e]) (some r) := by
  rw [h.mergeReview_eq e] at hr
  obtain ⟨dueAt, hday, rfl⟩ := Option.map_eq_some_iff.1 hr
  exact .schedule hday

end KeptAfter

/-! ### Events that were taken up -/

/-- Whether a call was refused. -/
def StoreAnswer.isRefused : StoreAnswer → Bool
  | .refused _ => true
  | _ => false

namespace StoreCall

/-- The event in the reviews of a family of a profile that a call is about. -/
def reviewOf? (profile : ProfileNumber) (family : String) (c : StoreCall) : Option ReviewEvent :=
  (c.factOf? profile).bind (Fact.reviewOf family)

variable {profile : ProfileNumber} {family : String} {c : StoreCall} {e : ReviewEvent}

theorem reviewOf?_eq_some_iff :
    c.reviewOf? profile family = some e ↔ c = .record profile (.review family e) := by
  constructor
  · intro h
    obtain ⟨fact, hfact, hreview⟩ := Option.bind_eq_some_iff.1 h
    cases c with
    | record p fact' =>
      obtain ⟨⟨rfl, -⟩, hsome⟩ := Option.ite_none_right_eq_some.1 hfact
      obtain rfl := Option.some.inj hsome
      cases fact' with
      | review family' e' =>
        obtain ⟨rfl, heq⟩ := Option.ite_none_right_eq_some.1 hreview
        obtain rfl := Option.some.inj heq
        rfl
      | _ => cases hreview
    | _ => cases hfact
  · rintro rfl
    simp [reviewOf?, factOf?, Fact.reviewOf, Fact.fits]

end StoreCall

namespace Store

/-- The calls that were not refused. -/
def served (s : Store) : List StoreCall → List StoreCall
  | [] => []
  | c :: cs => (if (s.call c).2.isRefused then [] else [c]) ++ (s.call c).1.served cs

theorem served_concat (s : Store) (cs : List StoreCall) (c : StoreCall) :
    s.served (cs ++ [c]) = s.served cs ++ if ((s.run cs).call c).2.isRefused then [] else [c] := by
  induction cs generalizing s with
  | nil => exact List.append_nil _
  | cons c' cs ih =>
    rw [List.cons_append, served, ih, ← List.append_assoc]
    rfl

/-- **The events in the reviews of a family** that calls of an empty store have brought, since
the profile was last deleted: those that were not refused. -/
def reviewsOf (profile : ProfileNumber) (family : String) (cs : List StoreCall) :
    List ReviewEvent :=
  (StoreCall.factsOf profile (served {} cs)).filterMap (Fact.reviewOf family)

variable {profile : ProfileNumber} {family : String}

/-- The events after one more call. -/
theorem reviewsOf_concat (profile : ProfileNumber) (family : String) (cs : List StoreCall)
    (c : StoreCall) :
    reviewsOf profile family (cs ++ [c]) =
      if c.deletes profile then []
      else reviewsOf profile family cs ++
        if ((run {} cs).call c).2.isRefused then [] else (c.reviewOf? profile family).toList := by
  rw [reviewsOf, served_concat]
  cases hrefused : ((run {} cs).call c).2.isRefused with
  | false =>
    rw [if_neg Bool.false_ne_true, StoreCall.factsOf_concat, if_neg Bool.false_ne_true]
    cases c.deletes profile with
    | true => rfl
    | false =>
      rw [if_neg Bool.false_ne_true, if_neg Bool.false_ne_true, List.filterMap_append,
        StoreCall.reviewOf?, reviewsOf]
      cases c.factOf? profile with
      | none => rfl
      | some fact => cases hfact : Fact.reviewOf family fact <;> simp [hfact]
  | true =>
    rw [if_pos rfl, List.append_nil, if_pos rfl, List.append_nil]
    cases hdeletes : c.deletes profile with
    | false => rfl
    | true =>
      -- The deletion of a number that the store can hold is not refused.
      cases c with
      | delete n =>
        obtain rfl : n = profile.toInt := by simpa [StoreCall.deletes] using hdeletes
        rw [call_delete] at hrefused
        cases hrefused
      | _ => cases hdeletes

/-- **One more call** forgets the events, or leaves them as they are, or is a review that adds
one. -/
theorem reviewsOf_concat_cases (profile : ProfileNumber) (family : String) (cs : List StoreCall)
    (c : StoreCall) :
    reviewsOf profile family (cs ++ [c]) = [] ∨
      reviewsOf profile family (cs ++ [c]) = reviewsOf profile family cs ∨
      ∃ e, c = .record profile (.review family e) ∧
        reviewsOf profile family (cs ++ [c]) = reviewsOf profile family cs ++ [e] := by
  rw [reviewsOf_concat]
  split
  · exact .inl rfl
  · split
    · exact .inr (.inl (List.append_nil _))
    · cases hreview : c.reviewOf? profile family with
      | none => exact .inr (.inl (List.append_nil _))
      | some e => exact .inr (.inr ⟨e, StoreCall.reviewOf?_eq_some_iff.1 hreview, rfl⟩)

/-- What is kept of a family after one more call. -/
theorem schedule?_run_concat (profile : ProfileNumber) (family : String) (cs : List StoreCall)
    (c : StoreCall) :
    (run {} (cs ++ [c])).schedule? profile family =
      if c.deletes profile then none
      else (c.reviewOf? profile family).elim ((run {} cs).schedule? profile family) fun e =>
        (mergeReview family ((run {} cs).schedule? profile family) e).or
          ((run {} cs).schedule? profile family) := by
  rw [(summarizes_run _).schedule?_eq, (summarizes_run cs).schedule?_eq, scheduleAfter,
    StoreCall.factsOf_concat]
  cases c.deletes profile with
  | true => rfl
  | false =>
    rw [if_neg Bool.false_ne_true, if_neg Bool.false_ne_true, List.filterMap_append,
      StoreCall.reviewOf?, scheduleAfter]
    cases c.factOf? profile with
    | none => simp
    | some fact => cases hfact : Fact.reviewOf family fact <;> simp [hfact, foldEvents_concat]

/-- A review is taken up exactly if it can be merged. -/
theorem answer_review (s : Store) (e : ReviewEvent) :
    (s.call (.record profile (.review family e))).2 =
      if (mergeReview family (s.schedule? profile family) e).isSome then .recorded
      else .refused .afterCalendar := by
  have hnote := s.note_review profile family e
  rw [putOff_eq] at hnote
  simp only [call, ProfileNumber.ofInt, ProfileNumber.ofInt?_toInt, mergeReview, Option.isSome_map]
  cases hday : e.now.addDays? (e.next (s.schedule? profile family)).1 with
  | none =>
    rw [hday] at hnote
    rw [hnote]
    rfl
  | some dueAt =>
    rw [hday] at hnote
    rw [hnote]
    rfl

/-- **After any calls of an empty store, the schedule is that of the events** that were taken
up. -/
theorem schedule?_run (cs : List StoreCall) (profile : ProfileNumber) (family : String) :
    KeptAfter family (reviewsOf profile family cs) ((run {} cs).schedule? profile family) := by
  induction cs using List.reverseRecOn with
  | nil => exact .nothing
  | append_singleton cs c ih =>
    rw [reviewsOf_concat, schedule?_run_concat]
    cases c.deletes profile with
    | true => exact .nothing
    | false =>
      rw [if_neg Bool.false_ne_true, if_neg Bool.false_ne_true]
      cases hreview : c.reviewOf? profile family with
      | none => simpa using ih
      | some e =>
        obtain rfl := StoreCall.reviewOf?_eq_some_iff.1 hreview
        rw [answer_review _ e, Option.elim_some]
        cases hmerge : mergeReview family ((run {} cs).schedule? profile family) e with
        | none => simpa [StoreAnswer.isRefused] using ih
        | some r => exact ih.concat hmerge

/-- **The review schedule in closed form.** After any calls of an empty store, there is a schedule
of a family exactly if an event in its reviews was taken up since the profile was last deleted.
Its successes are those in a row at the end of the events, its interval is one day doubled for
each of them, or for each but one if there was nothing before them, up to the limit, and it is due
that many days after the last event. An event is taken up exactly if the calendar has the day
that it leads to, and the interval shrinks only at a failure or a new start. -/
theorem schedule?_closed_form (cs : List StoreCall) (profile : ProfileNumber) (family : String) :
    let es := reviewsOf profile family cs
    ((run {} cs).schedule? profile family = none ↔ es = []) ∧
    (∀ r, (run {} cs).schedule? profile family = some r →
      r.family = family ∧ r.successes = streak es ∧
      r.intervalDays =
        min (2 ^ if es.all ReviewEvent.succeeded then streak es - 1 else streak es) 30 ∧
      1 ≤ r.intervalDays ∧ r.intervalDays ≤ 30 ∧
      ∃ e, es.getLast? = some e ∧
        r.dueAt.micros = e.now.micros + r.intervalDays * Instant.microsPerDay) ∧
    (∀ e, ((run {} cs).call (.record profile (.review family e))).2 = .recorded ↔
      (e.now.addDays? (reviewInterval (es ++ [e]))).isSome = true) ∧
    ∀ c r r', (run {} cs).schedule? profile family = some r →
      (run {} (cs ++ [c])).schedule? profile family = some r' → r'.intervalDays < r.intervalDays →
        ∃ e, c = .record profile (.review family e) ∧ e.succeeded = false := by
  intro es
  have hkept : KeptAfter family es _ := schedule?_run cs profile family
  refine ⟨hkept.eq_none_iff, fun r hr => ?_, fun e => ?_, fun c r r' hr hr' hshrinks => ?_⟩
  · obtain ⟨hfamily, hsuccesses, hinterval, e, hlast, hday⟩ := hkept.of_eq_some hr
    refine ⟨hfamily, hsuccesses, hinterval, ?_, ?_, e, hlast, ?_⟩
    · exact hinterval ▸ one_le_reviewInterval es
    · exact hinterval ▸ reviewInterval_le es
    · exact hinterval ▸ (Instant.addDays?_eq_some_iff.1 hday).1
  · rw [answer_review _ e, hkept.mergeReview_eq e, Option.isSome_map]
    cases e.now.addDays? (reviewInterval (es ++ [e])) <;> simp
  · obtain ⟨-, -, hinterval, -⟩ := hkept.of_eq_some hr
    have hes : es ≠ [] := fun hnil => by simp [hkept.eq_none_iff.2 hnil] at hr
    have hkept' := schedule?_run (cs ++ [c]) profile family
    obtain ⟨-, -, hinterval', -⟩ := hkept'.of_eq_some hr'
    have hes' : reviewsOf profile family (cs ++ [c]) ≠ [] :=
      fun hnil => by simp [hkept'.eq_none_iff.2 hnil] at hr'
    rw [hinterval, hinterval'] at hshrinks
    rcases reviewsOf_concat_cases profile family cs c with hnil | hsame | ⟨e, hc, hmore⟩
    · exact absurd hnil hes'
    · exact absurd (congrArg reviewInterval hsame) (ne_of_lt hshrinks)
    · refine ⟨e, hc, ?_⟩
      by_contra hsucceeded
      rw [Bool.not_eq_false] at hsucceeded
      rw [hmore] at hshrinks
      exact absurd (reviewInterval_le_concat hsucceeded hes) (not_le.2 hshrinks)

/-- Five successes lead to the limit after a start, and to sixteen days without one. -/
example : reviewInterval (.started ⟨0⟩ :: List.replicate 5 (.reviewed ⟨0⟩ true)) = 30 ∧
    reviewInterval (List.replicate 5 (.reviewed ⟨0⟩ true)) = 16 := by decide

end Store

end ClusterTutor
