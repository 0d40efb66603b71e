import ClusterTutor.Number.Numeral
import Mathlib

/-!
# Which whole numbers can be read

Two tests look at a word that may be a whole number, and they are not the same: one looks
at its form (`ClusterTutor.Numeral.isInteger`), with digits of any script and possibly a line
end behind them, and the other one reads it (`ClusterTutor.Numeral.readInt`), without blanks
and in ASCII. This module shows that a word of the right form is never malformed to the
reader, which refuses it only if it has more digits than the limit
(`ClusterTutor.Numeral.readInt_eq_error_iff`), and that what is read has no more
(`ClusterTutor.Numeral.natAbs_lt_of_readInt`).
-/

namespace ClusterTutor.Numeral

/-- The number of decimal digits of any script in a text. -/
def digitCount (s : String) : Nat :=
  s.toList.countP Text.isDecimalDigit

/-- **A text is an overlong number** when it has the form of a whole number and more digits
than the limit. -/
def IsOverlong (s : String) : Prop :=
  isInteger s = true ∧ digitLimit < digitCount s

/-! ### Digits -/

theorem isAsciiBlank_of_isDigit {c : Char} (h : c.isDigit = true) : isAsciiBlank c = false := by
  obtain ⟨hlow, hhigh⟩ : '0'.val ≤ c.val ∧ c.val ≤ '9'.val := by simpa [Char.isDigit] using h
  have hlow : 48 ≤ c.toNat := hlow
  have hhigh : c.toNat ≤ 57 := hhigh
  have hspace : c ≠ ' ' := by
    rintro rfl
    exact absurd hlow (by decide)
  simp only [isAsciiBlank, Bool.or_eq_false_iff, beq_eq_false_iff_ne, Bool.and_eq_false_iff,
    decide_eq_false_iff_not]
  exact ⟨hspace, Or.inr (by omega)⟩

/-- No digit of any script is a blank. -/
theorem isBlank_digit :
    ∀ z ∈ Text.digitZeros, ∀ d < 10, Text.isBlank (Char.ofNat (z + d)) = false := by
  decide +kernel

theorem isDigit_ofNat : ∀ d < 10, (Char.ofNat (0x30 + d)).isDigit = true := by
  decide

/-- **Digits of any script become ASCII digits.** -/
theorem isDigit_toAscii {c : Char} (h : Text.isDecimalDigit c = true) :
    (toAscii c).isDigit = true := by
  unfold Text.isDecimalDigit Text.digitValue? at h
  unfold toAscii
  split
  · rename_i hascii
    by_contra hdigit
    simp [hascii, hdigit] at h
  · rename_i hascii
    rw [if_neg hascii, Option.isSome_map] at h
    obtain ⟨z, hz⟩ := Option.isSome_iff_exists.1 h
    have hbounds := Array.find?_some hz
    simp only [Bool.and_eq_true, decide_eq_true_eq] at hbounds
    -- The ten digits of a script stand in a row, so only the table of their zeros is searched.
    have hd : c.toNat - z < 10 := by omega
    have hc : Char.ofNat (z + (c.toNat - z)) = c := by
      rw [show z + (c.toNat - z) = c.toNat by omega]
      exact Char.ofNat_toNat c
    have hblank := isBlank_digit z (Array.mem_of_find?_eq_some hz) (c.toNat - z) hd
    rw [hc] at hblank
    simp [hblank, Text.digitValue?, hascii, hz, isDigit_ofNat _ hd]

/-! ### Words of the form of a whole number -/

/-- **A word of the form of a whole number** is a list of digits, possibly with a minus sign
before them and a line end behind. -/
theorem exists_digits_of_isInteger {s : String} (h : isInteger s = true) :
    ∃ sign ds tail, s.toList = sign ++ ds ++ tail ∧ (sign = [] ∨ sign = ['-']) ∧ ds ≠ [] ∧
      (∀ c ∈ ds, Text.isDecimalDigit c = true) ∧ (tail = [] ∨ tail = ['\n']) := by
  obtain ⟨sign, body, hs, hsign, hbody⟩ : ∃ sign body, s.toList = sign ++ body ∧
      (sign = [] ∨ sign = ['-']) ∧ (!(body.takeWhile Text.isDecimalDigit).isEmpty &&
        ((body.dropWhile Text.isDecimalDigit).isEmpty ||
          body.dropWhile Text.isDecimalDigit == ['\n'])) = true := by
    unfold isInteger at h
    split at h
    · rename_i cs hs
      exact ⟨['-'], cs, hs, Or.inr rfl, h⟩
    · exact ⟨[], s.toList, rfl, Or.inl rfl, h⟩
  simp only [Bool.and_eq_true, Bool.not_eq_true', List.isEmpty_eq_false_iff, Bool.or_eq_true,
    List.isEmpty_iff, beq_iff_eq] at hbody
  refine ⟨sign, body.takeWhile Text.isDecimalDigit, body.dropWhile Text.isDecimalDigit, ?_, hsign,
    hbody.1, fun c hc => List.mem_takeWhile_imp hc, hbody.2⟩
  rw [List.append_assoc, List.takeWhile_append_dropWhile, hs]

theorem dropWhile_of_head {p : Char → Bool} {cs : List Char} (h : ∀ c ∈ cs.head?, p c = false) :
    cs.dropWhile p = cs := by
  cases cs with
  | nil => rfl
  | cons c cs =>
    have hc : p c = false := h c rfl
    simp [hc]

theorem dropUnderscores_of_ne {cs : List Char} (h : ∀ c ∈ cs, c ≠ '_') (afterDigit : Bool) :
    dropUnderscores afterDigit cs = some cs := by
  induction cs generalizing afterDigit with
  | nil => rfl
  | cons c cs ih =>
    obtain ⟨hc, hcs⟩ := List.forall_mem_cons.1 h
    rw [dropUnderscores]
    · simp [ih hcs]
    · exact hc

theorem dropUnderscores_of_digits {ds : List Char} (h : ∀ c ∈ ds, c.isDigit = true)
    (afterDigit : Bool) : dropUnderscores afterDigit ds = some ds := by
  refine dropUnderscores_of_ne (fun c hc => ?_) afterDigit
  rintro rfl
  exact absurd (h _ hc) (by decide)

/-- Such a word is normalized to its sign and its digits in ASCII. -/
theorem normalized_of_digits {s : String} {sign ds tail : List Char}
    (hs : s.toList = sign ++ ds ++ tail) (hsign : sign = [] ∨ sign = ['-']) (hne : ds ≠ [])
    (hds : ∀ c ∈ ds, Text.isDecimalDigit c = true) (htail : tail = [] ∨ tail = ['\n']) :
    normalized s = sign ++ ds.map toAscii := by
  have hdigit : ∀ c ∈ ds.map toAscii, isAsciiBlank c = false := by
    intro c hc
    obtain ⟨c', hc', rfl⟩ := List.mem_map.1 hc
    exact isAsciiBlank_of_isDigit (isDigit_toAscii (hds c' hc'))
  have hmap : s.toList.map toAscii = sign ++ ds.map toAscii ++ tail := by
    rw [hs]
    rcases hsign with rfl | rfl <;> rcases htail with rfl | rfl <;> simp [toAscii]
  have hfront : (sign ++ ds.map toAscii ++ tail).dropWhile isAsciiBlank =
      sign ++ ds.map toAscii ++ tail := by
    refine dropWhile_of_head fun c hc => ?_
    rcases hsign with rfl | rfl
    · obtain ⟨d, ds', rfl⟩ := List.exists_cons_of_ne_nil hne
      obtain rfl : toAscii d = c := by simpa using hc
      exact hdigit _ (by simp)
    · obtain rfl : '-' = c := by simpa using hc
      rfl
  have hback : (sign ++ ds.map toAscii).reverse.dropWhile isAsciiBlank =
      (sign ++ ds.map toAscii).reverse := by
    refine dropWhile_of_head fun c hc => ?_
    obtain ⟨ds', d, rfl⟩ := (List.eq_nil_or_concat' ds).resolve_left hne
    obtain rfl : toAscii d = c := by simpa using hc
    exact hdigit _ (by simp)
  rw [normalized, hmap, hfront]
  rcases htail with rfl | rfl
  · rw [List.append_nil, hback, List.reverse_reverse]
  · have hend : isAsciiBlank '\n' = true := rfl
    rw [List.reverse_concat', List.dropWhile_cons_of_pos hend, hback, List.reverse_reverse]

/-- **A word of the form of a whole number is read, unless it has too many digits.** -/
theorem readInt_of_isInteger {s : String} (h : isInteger s = true) :
    ∃ n, readInt s = if digitLimit < digitCount s then .error .tooLong else .ok n := by
  obtain ⟨sign, ds, tail, hs, hsign, hne, hds, htail⟩ := exists_digits_of_isInteger h
  have hascii : ∀ c ∈ ds.map toAscii, c.isDigit = true := by
    intro c hc
    obtain ⟨c', hc', rfl⟩ := List.mem_map.1 hc
    exact isDigit_toAscii (hds c' hc')
  -- Neither the sign nor the line end is a digit.
  have hcount : digitCount s = (ds.map toAscii).length := by
    have hcountDs : ds.countP Text.isDecimalDigit = ds.length := List.countP_eq_length.2 hds
    have hminus : Text.isDecimalDigit '-' = false := by decide
    have hline : Text.isDecimalDigit '\n' = false := by decide
    rw [digitCount, hs]
    rcases hsign with rfl | rfl <;> rcases htail with rfl | rfl <;>
      simp [hcountDs, hminus, hline]
  have hsplit : splitSign (sign ++ ds.map toAscii) = (sign == ['-'], ds.map toAscii) := by
    rcases hsign with rfl | rfl
    · obtain ⟨d, ds', rfl⟩ := List.exists_cons_of_ne_nil hne
      have hd : (toAscii d).isDigit = true := hascii _ (by simp)
      have hminus : toAscii d ≠ '-' := fun heq => absurd (heq ▸ hd) (by decide)
      have hplus : toAscii d ≠ '+' := fun heq => absurd (heq ▸ hd) (by decide)
      simp [splitSign, hminus, hplus]
    · rfl
  have hall : (ds.map toAscii).all Char.isDigit = true := List.all_eq_true.2 hascii
  have hnonempty : (ds.map toAscii).isEmpty = false := by simpa using hne
  refine ⟨if sign == ['-'] then -(value (ds.map toAscii) : Int) else value (ds.map toAscii), ?_⟩
  rw [readInt, normalized_of_digits hs hsign hne hds htail, hsplit]
  simp only [dropUnderscores_of_digits hascii, hnonempty, hall, Bool.not_true, Bool.or_self,
    Bool.false_eq_true, if_false, hcount]

/-- **A word of the form of a whole number is refused exactly if it has too many digits.** -/
theorem readInt_eq_error_iff {s : String} (h : isInteger s = true) {fault : Fault} :
    readInt s = .error fault ↔ fault = .tooLong ∧ digitLimit < digitCount s := by
  obtain ⟨n, hn⟩ := readInt_of_isInteger h
  rw [hn]
  by_cases hlong : digitLimit < digitCount s
  · simp [hlong, eq_comm]
  · simp [hlong]

/-! ### How large what is read may be -/

theorem value_lt {ds : List Char} (h : ∀ c ∈ ds, c.isDigit = true) : value ds < 10 ^ ds.length := by
  induction ds using List.reverseRecOn with
  | nil => simp [value]
  | append_singleton ds c ih =>
    have hds := ih fun c hc => h c (List.mem_append_left _ hc)
    obtain ⟨-, hhigh⟩ : '0'.val ≤ c.val ∧ c.val ≤ '9'.val := by
      simpa [Char.isDigit] using h c (by simp)
    have hhigh : c.toNat ≤ 57 := hhigh
    have hvalue : value (ds ++ [c]) = 10 * value ds + (c.toNat - 0x30) := by simp [value]
    rw [hvalue, List.length_append, List.length_singleton, pow_succ]
    omega

/-- Few digits make a small number. -/
theorem value_lt_of_length_le {ds : List Char} (h : ∀ c ∈ ds, c.isDigit = true) {limit : Nat}
    (hlimit : ds.length ≤ limit) : value ds < Nat.pow 10 limit :=
  (value_lt h).trans_le (Nat.pow_le_pow_right (by decide) hlimit)

/-- **A number that was read has no more digits than the limit.** -/
theorem natAbs_lt_of_readInt {s : String} {n : Int} (h : readInt s = .ok n) :
    n.natAbs < Nat.pow 10 digitLimit := by
  unfold readInt at h
  split at h
  rename_i negative body _
  split at h
  · cases h
  · rename_i ds _
    split at h
    · cases h
    · rename_i hdigits
      split at h
      · cases h
      · rename_i hlimit
        have hall : ∀ c ∈ ds, c.isDigit = true := by
          simpa [Bool.or_eq_true, not_or] using (by simpa using hdigits : _ ∧ _).2
        have habs : n.natAbs = value ds := by
          rw [← Except.ok.inj h]
          split <;> simp
        rw [habs]
        exact value_lt_of_length_le hall (Nat.le_of_not_lt hlimit)

end ClusterTutor.Numeral
