import ClusterTutor.Proofs.Calendar.Dates

/-!
# Texts of instants in order

Instants are sorted by their texts. The texts have different lengths, since the microseconds are
left out where there are none, so their order is not that of numbers of one width. It is the order
of instants all the same (`ClusterTutor.Instant.text_le_text_iff`), and the reason is that two
texts always differ at a letter before either of them ends
(`ClusterTutor.Text.ComesBefore`):

| two instants | differ first at |
|---|---|
| of different days | a digit of the year, the month or the day |
| of one day, but different seconds | a digit of the hour, the minute or the second |
| of one second, both with microseconds | a digit of these |
| of one second, one without microseconds | `+` of the offset and the point of the fraction |

The fields of a text stand in the order of their weight, and each is filled up to its width, which
makes the digits of a field come in the order of its number
(`ClusterTutor.Calendar.comesBefore_digits`). In the last row the order of the two letters decides:
`+` comes before the point.
-/

namespace ClusterTutor

/-! ### Texts that differ at a letter -/

namespace Text

/-- **A text comes before another one**, whatever follows either of them: at the first letter where
they differ, its letter is the smaller one. -/
def ComesBefore (s t : String) : Prop :=
  ∃ (common : List Char) (a b : Char) (rest rest' : List Char),
    s.toList = common ++ a :: rest ∧ t.toList = common ++ b :: rest' ∧ a < b

variable {s t : String}

theorem ComesBefore.lt (h : ComesBefore s t) : s < t := by
  obtain ⟨common, a, b, rest, rest', hs, ht, hlt⟩ := h
  rw [String.lt_iff_toList_lt, hs, ht]
  exact List.Lex.append_left _ (List.Lex.rel hlt) common

/-- What stands before two texts does not matter if it is the same. -/
theorem ComesBefore.append_left (h : ComesBefore s t) (before : String) :
    ComesBefore (before ++ s) (before ++ t) := by
  obtain ⟨common, a, b, rest, rest', hs, ht, hlt⟩ := h
  exact ⟨before.toList ++ common, a, b, rest, rest', by simp [hs], by simp [ht], hlt⟩

/-- What stands behind two texts does not matter. -/
theorem ComesBefore.append_right (h : ComesBefore s t) (u v : String) :
    ComesBefore (s ++ u) (t ++ v) := by
  obtain ⟨common, a, b, rest, rest', hs, ht, hlt⟩ := h
  exact ⟨common, a, b, rest ++ u.toList, rest' ++ v.toList, by simp [hs], by simp [ht], hlt⟩

end Text

open Text

/-! ### Digits -/

namespace Calendar

/-- The last digits of a number, as many as a width. -/
def lastDigits : Nat → Nat → List Char
  | 0, _ => []
  | width + 1, n => lastDigits width (n / 10) ++ [Nat.digitChar (n % 10)]

theorem lastDigits_zero (width : Nat) : lastDigits width 0 = List.replicate width '0' := by
  induction width with
  | zero => rfl
  | succ width ih =>
    rw [lastDigits, Nat.zero_div, ih, List.replicate_succ']
    rfl

/-- A number that fits into a width is written with its last digits. -/
theorem toList_digits {width n : Nat} (hwidth : 0 < width) (hn : n < 10 ^ width) :
    (digits width n).toList = lastDigits width n := by
  have hfill : ∀ n : Nat, (digits width n).toList =
      List.replicate (width - (Nat.toDigits 10 n).length) '0' ++ Nat.toDigits 10 n :=
    fun n => String.toList_ofList
  rw [hfill]
  clear hfill
  induction width generalizing n with
  | zero => exact absurd hwidth (lt_irrefl 0)
  | succ width ih =>
    rw [lastDigits, Nat.toDigits_eq_if (by decide)]
    split
    · rename_i hlt
      rw [Nat.div_eq_of_lt hlt, Nat.mod_eq_of_lt hlt, lastDigits_zero]
      rfl
    · rename_i hge
      have hwidth' : 0 < width := by
        rcases Nat.eq_zero_or_pos width with rfl | hpos
        · exact absurd hn hge
        · exact hpos
      have hn' : n / 10 < 10 ^ width := Nat.div_lt_of_lt_mul (by rwa [← Nat.pow_succ'])
      rw [← ih hwidth' hn', List.length_append, List.length_singleton, Nat.add_sub_add_right,
        List.append_assoc]

theorem digitChar_lt {m n : Nat} (h : m < n) (hn : n < 10) :
    Nat.digitChar m < Nat.digitChar n := by
  have hcodes : (Nat.digitChar m).toNat < (Nat.digitChar n).toNat := by
    rw [Nat.toNat_digitChar_of_lt_ten (h.trans hn), Nat.toNat_digitChar_of_lt_ten hn]
    omega
  exact hcodes

/-- **Numbers of one width are written in their order.** -/
theorem comesBefore_digits {width m n : Nat} (hwidth : 0 < width) (h : m < n)
    (hn : n < 10 ^ width) :
    ComesBefore (digits width m) (digits width n) := by
  have hlists : ∃ (common : List Char) (a b : Char) (rest rest' : List Char),
      lastDigits width m = common ++ a :: rest ∧ lastDigits width n = common ++ b :: rest' ∧
        a < b := by
    clear hwidth
    induction width generalizing m n with
    | zero => exact absurd hn (by omega)
    | succ width ih =>
      rcases Nat.lt_or_ge (m / 10) (n / 10) with hlt | hge
      · have hn' : n / 10 < 10 ^ width := Nat.div_lt_of_lt_mul (by rwa [← Nat.pow_succ'])
        obtain ⟨common, a, b, rest, rest', hm, hn, hab⟩ := ih hlt hn'
        exact ⟨common, a, b, rest ++ [Nat.digitChar (m % 10)], rest' ++ [Nat.digitChar (n % 10)],
          by rw [lastDigits, hm]; simp, by rw [lastDigits, hn]; simp, hab⟩
      · -- All digits but the last one are the same.
        have heq : m / 10 = n / 10 := by omega
        exact ⟨lastDigits width (n / 10), _, _, [], [], by rw [lastDigits, heq], rfl,
          digitChar_lt (by omega) (Nat.mod_lt _ (by decide))⟩
  obtain ⟨common, a, b, rest, rest', hm, hn', hab⟩ := hlists
  exact ⟨common, a, b, rest, rest', (toList_digits hwidth (h.trans hn)).trans hm,
    (toList_digits hwidth hn).trans hn', hab⟩

end Calendar

/-! ### The parts of a text -/

namespace Instant

open Calendar

/-- The text of the date of a day. -/
def dateText (day : Nat) : String :=
  digits 4 (dateOf day).1 ++ ("-" ++ (digits 2 (dateOf day).2.1 ++
    ("-" ++ digits 2 (dateOf day).2.2)))

/-- The text of a second of a day. -/
def clockText (second : Nat) : String :=
  "T" ++ (digits 2 (second / 3600) ++ (":" ++ (digits 2 (second / 60 % 60) ++
    (":" ++ digits 2 (second % 60)))))

/-- The text of the microseconds of a second, with the offset that ends the text of an
instant. -/
def endText (micros : Nat) : String :=
  (if micros = 0 then "" else "." ++ digits 6 micros) ++ "+00:00"

theorem text_eq (t : Instant) :
    t.text = dateText (t.micros.toNat / 86400000000) ++
      (clockText (t.micros.toNat / 1000000 % 86400) ++ endText (t.micros.toNat % 1000000)) := by
  simp only [text, dateText, clockText, endText, String.append_assoc, beq_iff_eq, toString]

variable {day day' second second' micros micros' : Nat}

theorem comesBefore_dateText (h : day < day') (hday' : day' < dayCount) :
    ComesBefore (dateText day) (dateText day') := by
  have hdate := isDate_dateOf day
  have hdate' := isDate_dateOf day'
  obtain ⟨hyears, hmonths, hdays⟩ := hdate'.bounds hday'
  unfold dateText
  rcases hdate.earlier hdate' h with hyear | ⟨hyear, hmonth | ⟨hmonth, hdayOf⟩⟩
  · exact (comesBefore_digits (by decide) hyear hyears).append_right _ _
  · rw [hyear]
    exact (((comesBefore_digits (by decide) hmonth hmonths).append_right _ _).append_left
      _).append_left _
  · rw [hyear, hmonth]
    exact ((((comesBefore_digits (by decide) hdayOf hdays).append_left _).append_left _).append_left
      _).append_left _

theorem comesBefore_clockText (h : second < second') (hsecond' : second' < 86400) :
    ComesBefore (clockText second) (clockText second') := by
  unfold clockText
  refine ComesBefore.append_left ?_ _
  rcases Nat.lt_or_ge (second / 3600) (second' / 3600) with hhour | hhour
  · exact (comesBefore_digits (by decide) hhour (by omega)).append_right _ _
  have hhours : second / 3600 = second' / 3600 := by omega
  rw [hhours]
  refine (ComesBefore.append_left ?_ _).append_left _
  rcases Nat.lt_or_ge (second / 60 % 60) (second' / 60 % 60) with hminute | hminute
  · exact (comesBefore_digits (by decide) hminute (by omega)).append_right _ _
  have hminutes : second / 60 % 60 = second' / 60 % 60 := by omega
  rw [hminutes]
  exact ((comesBefore_digits (by decide) (by omega) (by omega)).append_left _).append_left _

/-- No microseconds come before any, since `+` comes before the point. -/
theorem comesBefore_endText (h : micros < micros') (hmicros' : micros' < 1000000) :
    ComesBefore (endText micros) (endText micros') := by
  unfold endText
  rw [if_neg (Nat.ne_of_gt (Nat.zero_lt_of_lt h))]
  split
  · exact ⟨[], '+', '.', "00:00".toList, (digits 6 micros').toList ++ "+00:00".toList, rfl,
      by simp, by decide⟩
  · exact ((comesBefore_digits (by decide) h hmicros').append_left _).append_right _ _

/-! ### Texts of instants -/

variable {s t : Instant}

/-- **An earlier instant of the calendar has a smaller text.** -/
theorem text_lt_text (hs : s.inCalendar = true) (ht : t.inCalendar = true)
    (h : s.micros < t.micros) : s.text < t.text := by
  simp only [inCalendar, Bool.and_eq_true, decide_eq_true_eq] at hs ht
  obtain ⟨hs, -⟩ := hs
  obtain ⟨-, ht⟩ := ht
  have hcalendar : t.micros < (dayCount : Int) * 86400000000 := ht
  generalize hm : s.micros.toNat = m at *
  generalize hn : t.micros.toNat = n at *
  have hlt : m < n := by omega
  have hday' : n / 86400000000 < dayCount := Nat.div_lt_of_lt_mul (by omega)
  rw [text_eq, text_eq, hm, hn]
  refine ComesBefore.lt ?_
  rcases Nat.lt_or_ge (m / 86400000000) (n / 86400000000) with hday | hday
  · exact (comesBefore_dateText hday hday').append_right _ _
  have hdays : m / 86400000000 = n / 86400000000 := by omega
  rw [hdays]
  refine ComesBefore.append_left ?_ _
  rcases Nat.lt_or_ge (m / 1000000 % 86400) (n / 1000000 % 86400) with hsecond | hsecond
  · exact (comesBefore_clockText hsecond (Nat.mod_lt _ (by decide))).append_right _ _
  have hseconds : m / 1000000 % 86400 = n / 1000000 % 86400 := by omega
  rw [hseconds]
  exact (comesBefore_endText (by omega) (Nat.mod_lt _ (by decide))).append_left _

/-- **The order of texts is the order of instants.** -/
theorem text_le_text_iff (hs : s.inCalendar = true) (ht : t.inCalendar = true) :
    s.text ≤ t.text ↔ s.micros ≤ t.micros := by
  constructor
  · intro hle
    by_contra hlt
    exact absurd (text_lt_text ht hs (not_le.1 hlt)) (String.not_lt.2 hle)
  · intro hle
    rcases lt_or_eq_of_le hle with hlt | heq
    · exact String.not_lt.1 (String.lt_asymm (text_lt_text hs ht hlt))
    · have hsame : s = t := congrArg Instant.mk heq
      rw [hsame]

end Instant

end ClusterTutor
