import ClusterTutor.Text.Blank
import Mathlib.Data.List.Basic
import Mathlib.Data.List.Induction

/-!
# Texts with nothing in them

A text may be empty as it stands, or once the blanks around it are gone, or once it is
squeezed. All three come to the same: every character is a blank
(`ClusterTutor.Text.squeeze_eq_empty_iff`). Cutting a text into pieces loses its blanks
and nothing else (`ClusterTutor.Text.flatten_pieces`), so a text with a character that is
no blank has a word, and a line that is typed is never tracked as nothing.
-/

namespace ClusterTutor.Text

/-! ### Trimming -/

/-- What is left of a text without the blanks at its end ends with no blank. -/
theorem not_isBlank_of_getLast?_trimRight {cs : List Char} {c : Char}
    (h : (trimRight cs).getLast? = some c) : isBlank c = false := by
  have hlast := List.head?_dropWhile_not isBlank cs.reverse
  rw [trimRight, List.getLast?_reverse] at h
  rwa [h] at hlast

/-- A text of blanks without the blanks at its end is nothing. -/
theorem trimRight_eq_nil_of_all {cs : List Char} (h : (trimRight cs).all isBlank = true) :
    trimRight cs = [] := by
  by_contra hne
  have hlast := List.getLast?_eq_some_getLast hne
  have hblank := List.all_eq_true.1 h _ (List.getLast_mem hne)
  rw [not_isBlank_of_getLast?_trimRight hlast] at hblank
  exact absurd hblank (by simp)

/-- **A text without blanks around it**: neither its first character is one nor its last. -/
structure IsTrimmed (cs : List Char) : Prop where
  /-- The first character is no blank. -/
  front : ∀ c ∈ cs.head?, isBlank c = false
  /-- The last character is no blank. -/
  back : ∀ c ∈ cs.getLast?, isBlank c = false

theorem trimRight_eq_self {cs : List Char} (h : ∀ c ∈ cs.getLast?, isBlank c = false) :
    trimRight cs = cs := by
  induction cs using List.reverseRecOn with
  | nil => rfl
  | append_singleton cs c _ =>
    have hc : isBlank c = false := h c (by simp)
    simp [trimRight, hc]

/-- Of a text that ends with no blank only the blanks in front are dropped. -/
theorem trimList_eq_dropWhile {cs : List Char} (h : ∀ c ∈ cs.getLast?, isBlank c = false) :
    trimList cs = cs.dropWhile isBlank := by
  refine trimRight_eq_self fun c hc => h c ?_
  have hne : cs.dropWhile isBlank ≠ [] := by
    rintro hnil
    simp [hnil] at hc
  rw [← List.takeWhile_append_dropWhile (p := isBlank) (l := cs),
    List.getLast?_append_of_ne_nil _ hne]
  exact hc

theorem IsTrimmed.trimList_eq {cs : List Char} (h : IsTrimmed cs) : trimList cs = cs := by
  rw [trimList_eq_dropWhile h.back]
  cases cs with
  | nil => rfl
  | cons c cs => simp [h.front c rfl]

theorem isTrimmed_trimList (cs : List Char) : IsTrimmed (trimList cs) where
  front := by
    have hfront := List.head?_dropWhile_not isBlank cs
    intro c hc
    have hne : trimList cs ≠ [] := by
      rintro hnil
      simp [hnil] at hc
    obtain ⟨back, hback⟩ : trimRight (cs.dropWhile isBlank) <+: cs.dropWhile isBlank := by
      rw [trimRight, ← List.reverse_suffix, List.reverse_reverse]
      exact List.dropWhile_suffix _
    rw [← hback, ← trimList, List.head?_append_of_ne_nil _ hne] at hfront
    rw [Option.mem_def.1 hc] at hfront
    simpa using hfront
  back := fun _ hc => not_isBlank_of_getLast?_trimRight hc

theorem isTrimmed_trim (s : String) : IsTrimmed (trim s).toList := by
  rw [trim, String.toList_ofList]
  exact isTrimmed_trimList _

theorem trim_trim (s : String) : trim (trim s) = trim s := by
  rw [trim, (isTrimmed_trim s).trimList_eq, String.ofList_toList]

/-- **What is left of a text without the blanks around it is not made of blanks**, unless
it is nothing. -/
theorem isBlankText_trim_iff (s : String) : isBlankText (trim s) = true ↔ trim s = "" := by
  constructor
  · intro h
    have hnil : trimList s.toList = [] := by
      refine trimRight_eq_nil_of_all ?_
      simpa [isBlankText, trim, trimList] using h
    simp [trim, hnil]
  · intro h
    simp [h, isBlankText]

/-! ### Squeezing -/

theorem pieces_ne_nil (cs : List Char) : pieces cs ≠ [] := by
  cases cs with
  | nil => simp [pieces]
  | cons c cs =>
    simp only [pieces]
    split
    · simp
    · split <;> simp

/-- **Cutting a text into pieces loses its blanks** and nothing else. -/
theorem flatten_pieces (cs : List Char) :
    (pieces cs).flatten = cs.filter fun c => !isBlank c := by
  induction cs with
  | nil => simp [pieces]
  | cons c cs ih =>
    by_cases hc : isBlank c = true
    · simp [pieces, hc, ih]
    · cases hp : pieces cs with
      | nil => exact absurd hp (pieces_ne_nil cs)
      | cons p ps =>
        rw [hp] at ih
        simp only [pieces, hp, hc, Bool.false_eq_true, if_false, List.flatten_cons,
          List.cons_append]
        rw [← List.flatten_cons, ih, List.filter_cons_of_pos (by simpa using hc)]

/-- A text has no words when all of it is blank. -/
theorem words_eq_nil_iff (s : String) : words s = [] ↔ isBlankText s = true := by
  calc words s = []
      ↔ ∀ p ∈ pieces s.toList, p = [] := by simp [words, List.filter_eq_nil_iff]
    _ ↔ (pieces s.toList).flatten = [] := List.flatten_eq_nil_iff.symm
    _ ↔ isBlankText s = true := by
      rw [flatten_pieces]
      simp [isBlankText, List.filter_eq_nil_iff]

/-- No word is empty. -/
theorem ne_empty_of_mem_words {s w : String} (h : w ∈ words s) : w ≠ "" := by
  obtain ⟨p, hp, rfl⟩ := List.mem_map.1 h
  have hne : p ≠ [] := by simpa using (List.mem_filter.1 hp).2
  intro hw
  exact hne (by simpa using congrArg String.toList hw)

/-- **A text is squeezed to nothing when all of it is blank.** -/
theorem squeeze_eq_empty_iff (s : String) : squeeze s = "" ↔ isBlankText s = true := by
  rw [← words_eq_nil_iff, squeeze]
  cases hws : words s with
  | nil => simp
  | cons w ws =>
    have hw : w ≠ "" := ne_empty_of_mem_words (hws ▸ List.mem_cons_self)
    cases ws with
    | nil => simpa using hw
    | cons w' ws =>
      rw [String.intercalate_cons_cons]
      simp [hw]

/-! ### Cutting at blanks -/

/-- **A text is cut at a blank**, wherever it stands. -/
theorem pieces_append_of_isBlank {c : Char} (hc : isBlank c = true) (cs ds : List Char) :
    pieces (cs ++ c :: ds) = pieces cs ++ pieces ds := by
  induction cs with
  | nil => simp [pieces, hc]
  | cons d cs ih =>
    by_cases hd : isBlank d = true
    · simp [pieces, hd, ih]
    · cases hp : pieces cs with
      | nil => exact absurd hp (pieces_ne_nil cs)
      | cons p ps => simp [pieces, hd, ih, hp]

/-- The pieces of a text that are not empty do not depend on blanks before it. -/
theorem filter_pieces_dropWhile (cs : List Char) :
    ((pieces (cs.dropWhile isBlank)).filter fun p => !p.isEmpty) =
      (pieces cs).filter fun p => !p.isEmpty := by
  induction cs with
  | nil => rfl
  | cons c cs ih =>
    by_cases hc : isBlank c = true
    · simp [pieces, hc, ih]
    · simp [hc]

/-- The pieces of a text that are not empty do not depend on blanks after it. -/
theorem filter_pieces_trimRight (cs : List Char) :
    ((pieces (trimRight cs)).filter fun p => !p.isEmpty) =
      (pieces cs).filter fun p => !p.isEmpty := by
  induction cs using List.reverseRecOn with
  | nil => rfl
  | append_singleton cs c ih =>
    by_cases hc : isBlank c = true
    · have htrim : trimRight (cs ++ [c]) = trimRight cs := by simp [trimRight, hc]
      rw [htrim, ih, pieces_append_of_isBlank hc, List.filter_append]
      simp [pieces]
    · have htrim : trimRight (cs ++ [c]) = cs ++ [c] := by simp [trimRight, hc]
      rw [htrim]

/-- **Trimming makes no difference to a squeezed text.** -/
theorem squeeze_trim (s : String) : squeeze (trim s) = squeeze s := by
  have hwords : words (trim s) = words s := by
    rw [words, trim, String.toList_ofList, trimList, filter_pieces_trimRight,
      filter_pieces_dropWhile, words]
  rw [squeeze, hwords, squeeze]

/-- Trimming makes no difference to whether a text is blank. -/
theorem isBlankText_trim (s : String) : isBlankText (trim s) = true ↔ isBlankText s = true := by
  rw [← squeeze_eq_empty_iff, squeeze_trim, squeeze_eq_empty_iff]

end ClusterTutor.Text
