import ClusterTutor.Proofs.Number.Numeral

/-!
# Words that look like numbers

A menu takes a word for a number when all its characters look like digits
(`ClusterTutor.Text.isDigitLike`), and only then reads it as one
(`ClusterTutor.Numeral.readInt`). Not every word that passes the test can be read:

* a superscript or a circled digit looks like a digit, and no numeral has one;
* a number of many digits is refused for its length alone.

This module says which words are refused after they were taken for a number
(`ClusterTutor.Numeral.Misread`), and that there are no others
(`ClusterTutor.Numeral.readInt_eq_error_iff_misread`).
-/

namespace ClusterTutor.Numeral

variable {w : String} {c : Char}

/-- **A word is misread** when all its characters look like digits, and it cannot be read as a
number. -/
inductive Misread (w : String) : Fault → Prop
  /-- One of the characters is no decimal digit of any script. -/
  | malformed : (∀ c ∈ w.toList, Text.isDigitLike c = true) →
    (∃ c ∈ w.toList, Text.isDecimalDigit c = false) → Misread w .malformed
  /-- There are more digits than the limit. -/
  | tooLong : (∀ c ∈ w.toList, Text.isDecimalDigit c = true) → digitLimit < w.toList.length →
    Misread w .tooLong

namespace Misread

variable {fault : Fault}

/-- A word that is misread looks like a number. -/
theorem looks (h : Misread w fault) :
    w.toList ≠ [] ∧ ∀ c ∈ w.toList, Text.isDigitLike c = true := by
  cases h with
  | malformed hlooks hsome =>
    obtain ⟨c, hc, -⟩ := hsome
    exact ⟨List.ne_nil_of_mem hc, hlooks⟩
  | tooLong hdigits hlong =>
    refine ⟨fun hnil => ?_, fun c hc => by simp [Text.isDigitLike, hdigits c hc]⟩
    rw [hnil] at hlong
    exact absurd hlong (Nat.not_lt_zero _)

/-- A word that is misread is no word with a letter. -/
theorem ne_of_letter (h : Misread w fault) {word : String}
    (hword : word.toList.all Text.isDigitLike = false) : w ≠ word := by
  rintro rfl
  rw [List.all_eq_true.2 h.looks.2] at hword
  cases hword

end Misread

/-! ### Characters that look like digits -/

/-- No character that only looks like a digit is in ASCII, or a blank. -/
theorem isBlank_digitLike :
    ∀ r ∈ Text.digitLikeRanges, 0x80 ≤ r.1 ∧
      ∀ d ≤ r.2 - r.1, Text.isBlank (Char.ofNat (r.1 + d)) = false := by
  decide +kernel

theorem isDecimalDigit_of_isDigit (h : c.isDigit = true) : Text.isDecimalDigit c = true := by
  obtain ⟨-, hhigh⟩ : '0'.val ≤ c.val ∧ c.val ≤ '9'.val := by simpa [Char.isDigit] using h
  have hhigh : c.toNat ≤ 57 := hhigh
  have hascii : c.toNat < 0x80 := by omega
  simp [Text.isDecimalDigit, Text.digitValue?, hascii, h]

/-- A character that only looks like a digit stays as it is, outside of ASCII. -/
theorem toAscii_of_digitLike (h : Text.isDigitLike c = true)
    (hdecimal : Text.isDecimalDigit c = false) : toAscii c = c ∧ 0x80 ≤ c.toNat := by
  have hranges : Text.inRanges Text.digitLikeRanges c.toNat = true := by
    simpa [Text.isDigitLike, hdecimal] using h
  obtain ⟨r, hr, hc⟩ := Array.any_eq_true'.1 hranges
  simp only [Bool.and_eq_true, decide_eq_true_eq] at hc
  obtain ⟨hlow, hblank⟩ := isBlank_digitLike r hr
  have hwide : 0x80 ≤ c.toNat := by omega
  have hsame : Char.ofNat (r.1 + (c.toNat - r.1)) = c := by
    rw [show r.1 + (c.toNat - r.1) = c.toNat by omega]
    exact Char.ofNat_toNat c
  have hc' := hblank (c.toNat - r.1) (by omega)
  rw [hsame] at hc'
  have hvalue : Text.digitValue? c = none := by simpa [Text.isDecimalDigit] using hdecimal
  refine ⟨?_, hwide⟩
  simp [toAscii, Nat.not_lt.2 hwide, hc', hvalue]

/-- **What looks like a digit** becomes an ASCII digit if it is one, and otherwise a character
that is none. -/
theorem toAscii_cases (h : Text.isDigitLike c = true) :
    Text.isDecimalDigit c = true ∧ (toAscii c).isDigit = true ∨
      Text.isDecimalDigit c = false ∧ (toAscii c).isDigit = false ∧ 0x80 ≤ (toAscii c).toNat := by
  cases hdecimal : Text.isDecimalDigit c with
  | true => exact .inl ⟨rfl, isDigit_toAscii hdecimal⟩
  | false =>
    obtain ⟨hsame, hwide⟩ := toAscii_of_digitLike h hdecimal
    refine .inr ⟨rfl, ?_, hsame.symm ▸ hwide⟩
    rw [hsame]
    by_contra hdigit
    rw [isDecimalDigit_of_isDigit (by simpa using hdigit)] at hdecimal
    cases hdecimal

/-! ### Reading -/

/-- Whether a character of a numeral in ASCII is neither a blank nor an underscore nor a sign:
the reader keeps it where it is. -/
def isKept (c : Char) : Bool := !isAsciiBlank c && c != '_' && c != '-' && c != '+'

theorem of_isKept (h : isKept c = true) :
    isAsciiBlank c = false ∧ c ≠ '_' ∧ c ≠ '-' ∧ c ≠ '+' := by
  simpa [isKept, and_assoc] using h

theorem isKept_toAscii (h : Text.isDigitLike c = true) : isKept (toAscii c) = true := by
  rcases toAscii_cases h with ⟨-, hdigit⟩ | ⟨-, -, hwide⟩
  · have hunderscore : toAscii c ≠ '_' := fun heq => absurd (heq ▸ hdigit) (by decide)
    have hminus : toAscii c ≠ '-' := fun heq => absurd (heq ▸ hdigit) (by decide)
    have hplus : toAscii c ≠ '+' := fun heq => absurd (heq ▸ hdigit) (by decide)
    simp [isKept, isAsciiBlank_of_isDigit hdigit, hunderscore, hminus, hplus]
  · have hne : ∀ d : Char, d.toNat < 0x80 → toAscii c ≠ d := by
      rintro d hd heq
      rw [heq] at hwide
      omega
    have hblank : isAsciiBlank (toAscii c) = false := by
      have hspace : toAscii c ≠ ' ' := hne ' ' (by decide)
      simp only [isAsciiBlank, Bool.or_eq_false_iff, beq_eq_false_iff_ne, Bool.and_eq_false_iff,
        decide_eq_false_iff_not]
      exact ⟨hspace, .inr (by omega)⟩
    simp [isKept, hblank, hne '_' (by decide), hne '-' (by decide), hne '+' (by decide)]

/-- A word of which the reader keeps every character is normalized to its characters. -/
theorem normalized_of_kept (h : ∀ c ∈ w.toList, isKept (toAscii c) = true) :
    normalized w = w.toList.map toAscii := by
  have hblank : ∀ c ∈ w.toList.map toAscii, isAsciiBlank c = false := by
    intro c hc
    obtain ⟨c', hc', rfl⟩ := List.mem_map.1 hc
    exact (of_isKept (h c' hc')).1
  have hfront : (w.toList.map toAscii).dropWhile isAsciiBlank = w.toList.map toAscii :=
    dropWhile_of_head fun c hc => hblank c (List.mem_of_mem_head? hc)
  have hback : (w.toList.map toAscii).reverse.dropWhile isAsciiBlank =
      (w.toList.map toAscii).reverse :=
    dropWhile_of_head fun c hc => hblank c (List.mem_reverse.1 (List.mem_of_mem_head? hc))
  simp only [normalized]
  rw [hfront, hback, List.reverse_reverse]

/-- A word of which the reader keeps every character is read digit by digit. -/
theorem readInt_of_kept (h : ∀ c ∈ w.toList, isKept (toAscii c) = true) :
    readInt w =
      if (w.toList.map toAscii).isEmpty || !(w.toList.map toAscii).all Char.isDigit then
        .error .malformed
      else if digitLimit < w.toList.length then .error .tooLong
      else .ok (value (w.toList.map toAscii)) := by
  have hkept : ∀ c ∈ w.toList.map toAscii, isKept c = true := by
    intro c hc
    obtain ⟨c', hc', rfl⟩ := List.mem_map.1 hc
    exact h c' hc'
  have hsign : splitSign (w.toList.map toAscii) = (false, w.toList.map toAscii) := by
    cases hw : w.toList.map toAscii with
    | nil => rfl
    | cons c cs =>
      obtain ⟨-, -, hminus, hplus⟩ := of_isKept (hkept c (by simp [hw]))
      unfold splitSign
      split
      · rename_i heq
        exact absurd (List.cons.inj heq).1 hminus
      · rename_i heq
        exact absurd (List.cons.inj heq).1 hplus
      · rfl
  have hunderscores : dropUnderscores false (w.toList.map toAscii) = some (w.toList.map toAscii) :=
    dropUnderscores_of_ne (fun c hc => (of_isKept (hkept c hc)).2.1) false
  simp only [readInt, normalized_of_kept h, hsign, hunderscores, List.length_map,
    Bool.false_eq_true, if_false]

/-- **A word that looks like a number is refused exactly if it is misread.** -/
theorem readInt_eq_error_iff_misread (hne : w.toList ≠ [])
    (h : ∀ c ∈ w.toList, Text.isDigitLike c = true) {fault : Fault} :
    readInt w = .error fault ↔ Misread w fault := by
  have hread := readInt_of_kept fun c hc => isKept_toAscii (h c hc)
  have hempty : (w.toList.map toAscii).isEmpty = false := by simpa using hne
  by_cases hdigits : ∀ c ∈ w.toList, Text.isDecimalDigit c = true
  · have hall : (w.toList.map toAscii).all Char.isDigit = true := by
      rw [List.all_map, List.all_eq_true]
      exact fun c hc => isDigit_toAscii (hdigits c hc)
    simp only [hempty, hall, Bool.not_true, Bool.or_self, Bool.false_eq_true, if_false] at hread
    rw [hread]
    constructor
    · intro herror
      split at herror
      · rename_i hlong
        obtain rfl := Except.error.inj herror
        exact .tooLong hdigits hlong
      · cases herror
    · rintro (⟨-, c, hc, hnone⟩ | ⟨-, hlong⟩)
      · rw [hdigits c hc] at hnone
        cases hnone
      · rw [if_pos hlong]
  · obtain ⟨c, hc, hnone⟩ : ∃ c ∈ w.toList, Text.isDecimalDigit c = false := by
      simpa using hdigits
    have hall : (w.toList.map toAscii).all Char.isDigit = false := by
      rw [List.all_map, List.all_eq_false]
      rcases toAscii_cases (h c hc) with ⟨hdecimal, -⟩ | ⟨-, hdigit, -⟩
      · rw [hnone] at hdecimal
        cases hdecimal
      · exact ⟨c, hc, by simp [hdigit]⟩
    simp only [hempty, hall, Bool.not_false, Bool.or_true, if_true] at hread
    rw [hread]
    constructor
    · intro herror
      obtain rfl := Except.error.inj herror
      exact .malformed h ⟨c, hc, hnone⟩
    · rintro (_ | ⟨hdecimal, -⟩)
      · rfl
      · rw [hdecimal c hc] at hnone
        cases hnone

end ClusterTutor.Numeral
