import ClusterTutor.Proofs.Calendar.TextOrder
import ClusterTutor.Proofs.Progress.Reviews

/-!
# Reviews in the order in which they become due

Which reviews are due is found in two ways at once: the rows of a profile are put in the order of
the texts of their due times, and of these rows the ones are listed whose due time, read as an
instant, is not after the moment of the question. That the list is chronological, and that more
time only adds to its end, needs the two ways to agree. They do for due times that the calendar
has (`ClusterTutor.Instant.text_le_text_iff`), and a store never keeps another one
(`ClusterTutor.Store.wellScheduled_run`): a review that would be due later than that is refused.
-/

namespace ClusterTutor

/-- Where only items that pass stand before one that does, they are a prefix of what passes a
weaker test. -/
theorem filter_prefix_filter_of_pairwise {α : Type} {p q : α → Bool} {xs : List α}
    (hpq : ∀ x, p x = true → q x = true)
    (h : xs.Pairwise fun x y => p y = true → p x = true) : xs.filter p <+: xs.filter q := by
  induction xs with
  | nil => exact List.prefix_rfl
  | cons x xs ih =>
    obtain ⟨hx, hxs⟩ := List.pairwise_cons.1 h
    cases hp : p x with
    | true =>
      rw [List.filter_cons_of_pos hp, List.filter_cons_of_pos (hpq x hp)]
      exact (List.prefix_cons_inj x).2 (ih hxs)
    | false =>
      have hnil : xs.filter p = [] :=
        List.filter_eq_nil_iff.2 fun y hy hpy => by simp [hx y hy hpy] at hp
      rw [List.filter_cons_of_neg (by simp [hp]), hnil]
      exact List.nil_prefix

namespace Store

/-- **The schedules of a profile are well formed**: each is kept under the name of its family,
and is due within the calendar. -/
structure WellScheduled (s : Store) (profile : ProfileNumber) : Prop where
  /-- A schedule is that of the family under whose name it is kept. -/
  family_eq : ∀ {family r}, s.schedule? profile family = some r → r.family = family
  /-- The calendar has the due time. -/
  inCalendar : ∀ {family r}, s.schedule? profile family = some r → r.dueAt.inCalendar = true

/-- **After any calls of an empty store, the schedules are well formed.** -/
theorem wellScheduled_run (cs : List StoreCall) (profile : ProfileNumber) :
    (run {} cs).WellScheduled profile where
  family_eq {family} _ hr := ((schedule?_run cs profile family).of_eq_some hr).1
  inCalendar {family} _ hr := by
    obtain ⟨-, -, -, e, -, hday⟩ := (schedule?_run cs profile family).of_eq_some hr
    exact (Instant.addDays?_eq_some_iff.1 hday).2

/-- The schedules of a profile, in the order of the texts of their due times. -/
def scheduleRows (s : Store) (profile : ProfileNumber) : List ReviewSchedule :=
  Text.sortedBy (fun r => r.dueAt.text)
    (Text.sortedBy ReviewSchedule.family (Table.ofProfile s.reviews profile).values)

theorem dueReviews_eq (s : Store) (profile : ProfileNumber) (moment : Instant) :
    s.dueReviews profile moment =
      ((s.scheduleRows profile).filter fun r => r.dueAt.le moment).map ReviewSchedule.family :=
  rfl

/-- The rows are the schedules of the profile, in some order. -/
theorem perm_scheduleRows (s : Store) (profile : ProfileNumber) :
    (s.scheduleRows profile).Perm (Table.ofProfile s.reviews profile).values :=
  (Text.perm_sortedBy _ _).trans (Text.perm_sortedBy _ _)

namespace WellScheduled

variable {s : Store} {profile : ProfileNumber} {moment : Instant}

theorem mem_scheduleRows (h : s.WellScheduled profile) {r : ReviewSchedule} :
    r ∈ s.scheduleRows profile ↔ s.schedule? profile r.family = some r := by
  have hentries : ∀ family, (family, r) ∈ (Table.ofProfile s.reviews profile).toList ↔
      s.schedule? profile family = some r := by
    intro family
    rw [OrderedMap.mem_toList_iff, Table.get?_ofProfile]
    exact Iff.rfl
  rw [(s.perm_scheduleRows profile).mem_iff, OrderedMap.values, List.mem_map]
  constructor
  · rintro ⟨⟨family, r⟩, hmem, rfl⟩
    have hr := (hentries family).1 hmem
    rwa [h.family_eq hr]
  · exact fun hr => ⟨(r.family, r), (hentries _).2 hr, rfl⟩

/-- No family has two rows. -/
theorem nodup_families (h : s.WellScheduled profile) :
    ((s.scheduleRows profile).map ReviewSchedule.family).Nodup := by
  rw [((s.perm_scheduleRows profile).map _).nodup_iff, OrderedMap.values, List.map_map]
  have hkeys : (Table.ofProfile s.reviews profile).toList.map (ReviewSchedule.family ∘ Prod.snd) =
      (Table.ofProfile s.reviews profile).keys := by
    refine List.map_congr_left ?_
    rintro ⟨family, r⟩ hmem
    rw [OrderedMap.mem_toList_iff, Table.get?_ofProfile] at hmem
    exact h.family_eq hmem
  rw [hkeys]
  exact OrderedMap.nodup_keys _

/-- Two schedules have their texts in the order of their due times. -/
theorem text_le_text_iff (h : s.WellScheduled profile) {family family' : String}
    {r r' : ReviewSchedule} (hr : s.schedule? profile family = some r)
    (hr' : s.schedule? profile family' = some r') :
    r.dueAt.text ≤ r'.dueAt.text ↔ r.dueAt.micros ≤ r'.dueAt.micros :=
  Instant.text_le_text_iff (h.inCalendar hr) (h.inCalendar hr')

/-- **The rows are chronological.** -/
theorem pairwise_scheduleRows (h : s.WellScheduled profile) :
    (s.scheduleRows profile).Pairwise fun r r' => r.dueAt.micros ≤ r'.dueAt.micros := by
  refine (Text.pairwise_sortedBy _ _).imp_of_mem fun {r r'} hr hr' hle => ?_
  exact (h.text_le_text_iff (h.mem_scheduleRows.1 hr) (h.mem_scheduleRows.1 hr')).1 hle

/-- **Exactly the families are due whose due time is not after the moment.** -/
theorem mem_dueReviews (h : s.WellScheduled profile) {family : String} :
    family ∈ s.dueReviews profile moment ↔
      ∃ r, s.schedule? profile family = some r ∧ r.dueAt.micros ≤ moment.micros := by
  simp only [dueReviews_eq, List.mem_map, List.mem_filter, Instant.le, decide_eq_true_eq]
  constructor
  · rintro ⟨r, ⟨hr, hle⟩, rfl⟩
    exact ⟨r, h.mem_scheduleRows.1 hr, hle⟩
  · rintro ⟨r, hr, hle⟩
    obtain rfl := h.family_eq hr
    exact ⟨r, ⟨h.mem_scheduleRows.2 hr, hle⟩, rfl⟩

theorem nodup_dueReviews (h : s.WellScheduled profile) : (s.dueReviews profile moment).Nodup :=
  h.nodup_families.sublist ((List.filter_sublist).map _)

/-- **What is due is listed chronologically.** -/
theorem pairwise_dueReviews (h : s.WellScheduled profile) :
    (s.dueReviews profile moment).Pairwise fun family family' =>
      ∀ r r', s.schedule? profile family = some r → s.schedule? profile family' = some r' →
        r.dueAt.micros ≤ r'.dueAt.micros := by
  rw [dueReviews_eq, List.pairwise_map]
  refine (h.pairwise_scheduleRows.filter _).imp_of_mem fun {r₁ r₂} hr₁ hr₂ hle r r' hr hr' => ?_
  -- The schedules of the two families are the two rows.
  rw [h.mem_scheduleRows.1 (List.mem_filter.1 hr₁).1, Option.some.injEq] at hr
  rw [h.mem_scheduleRows.1 (List.mem_filter.1 hr₂).1, Option.some.injEq] at hr'
  rwa [← hr, ← hr']

/-- **Later, more is due**, and it comes behind what was due before. -/
theorem dueReviews_prefix (h : s.WellScheduled profile) {later : Instant}
    (hlater : moment.micros ≤ later.micros) :
    s.dueReviews profile moment <+: s.dueReviews profile later := by
  rw [dueReviews_eq, dueReviews_eq]
  refine (filter_prefix_filter_of_pairwise (fun r hr => ?_) ?_).map _
  · exact decide_eq_true ((of_decide_eq_true hr).trans hlater)
  · refine h.pairwise_scheduleRows.imp fun hle hdue => ?_
    exact decide_eq_true (hle.trans (of_decide_eq_true hdue))

end WellScheduled

/-- **Due reviews are complete and chronological.** After any calls of an empty store, the due
reviews of a profile are exactly the families with a schedule whose due time is not after the
moment of the question, each once, and of two of them the one that is due earlier comes first. The
due times of all schedules are ordered as their texts are. At a later moment, what was due before
is the beginning of what is due. -/
theorem dueReviews_chronological (cs : List StoreCall) (profile : ProfileNumber)
    (moment : Instant) :
    let s := run {} cs
    let due := s.dueReviews profile moment
    (∀ family, family ∈ due ↔
      ∃ r, s.schedule? profile family = some r ∧ r.dueAt.micros ≤ moment.micros) ∧
    due.Nodup ∧
    (due.Pairwise fun family family' =>
      ∀ r r', s.schedule? profile family = some r → s.schedule? profile family' = some r' →
        r.dueAt.micros ≤ r'.dueAt.micros) ∧
    (∀ family family' r r', s.schedule? profile family = some r →
      s.schedule? profile family' = some r' →
        (r.dueAt.text ≤ r'.dueAt.text ↔ r.dueAt.micros ≤ r'.dueAt.micros)) ∧
    ∀ later : Instant, moment.micros ≤ later.micros → due <+: s.dueReviews profile later := by
  intro s due
  have h := wellScheduled_run cs profile
  exact ⟨fun family => h.mem_dueReviews, h.nodup_dueReviews, h.pairwise_dueReviews,
    fun family family' r r' hr hr' => h.text_le_text_iff hr hr',
    fun later hlater => h.dueReviews_prefix hlater⟩

end Store

end ClusterTutor
